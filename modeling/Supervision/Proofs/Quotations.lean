import Mathlib.Data.List.Forall2
import Supervision.Proofs.Bodies
import Supervision.Proofs.Overlay

/-!
# Quotations

What the messages about a configuration tell of what the user wrote. `Text.QuotedAs` says how a
character stands between quotes, and `Text.quotations` reads the quotations of a message back;
`Text.Scans` is what both have in common, one quotation at a time. `Config.messages_unforged` says
that nothing that a user writes can break a message into two lines or pass for anything else.
-/

namespace Supervision

namespace Text

/-! ## Characters between quotes -/

/-- How a character stands between quotes. One that does not show is escaped, by a letter where
there is one and else by its code point. -/
inductive QuotedAs : Char → List Char → Prop where
  | quote : QuotedAs '"' ['\\', '"']
  | backslash : QuotedAs '\\' ['\\', '\\']
  | newline : QuotedAs '\n' ['\\', 'n']
  | carriageReturn : QuotedAs '\r' ['\\', 'r']
  | tab : QuotedAs '\t' ['\\', 't']
  | null : QuotedAs '\x00' ['\\', '0']
  | itself {c} :
    isVisible c →
    c ≠ '"' →
    c ≠ '\\' →
    QuotedAs c [c]
  | codePoint {c} :
    ¬isVisible c →
    c ∉ ['\n', '\r', '\t', '\x00'] →
    QuotedAs c (['\\', 'u', '\x7b'] ++ Nat.toDigits 16 c.toNat ++ ['\x7d'])

/-- The digits of the writer are those of the library. -/
lemma hexDigits_eq_toDigits (n : Nat) : hexDigits n = Nat.toDigits 16 n := by
  induction n using hexDigits.induct with
  | case1 n small =>
    rw [hexDigits, if_pos small, Nat.toDigits_of_lt_base small, Json.hexDigit_eq_digitChar n small]
  | case2 n large ih =>
    have high : Nat.toDigits 16 n = Nat.toDigits 16 (n / 16) ++ [(n % 16).digitChar] :=
      Nat.toDigits_of_base_le (by omega) (by omega)
    rw [hexDigits, if_neg large, ih, high, Json.hexDigit_eq_digitChar (n % 16) (by omega)]

/-- Every character is quoted as it should be. -/
lemma quotedAs_quotedChar (c : Char) : QuotedAs c (quotedChar c) := by
  unfold quotedChar
  split_ifs with quote backslash newline carriageReturn tab null visible
  · exact quote ▸ .quote
  · exact backslash ▸ .backslash
  · exact newline ▸ .newline
  · exact carriageReturn ▸ .carriageReturn
  · exact tab ▸ .tab
  · exact null ▸ .null
  · exact .itself visible quote backslash
  · rw [codePointEscape, hexDigits_eq_toDigits]
    exact .codePoint visible (by simp [*])

/-- A text is quoted between quotes, character by character. -/
lemma toList_quoted (s : String) :
    (quoted s).toList = '"' :: (s.toList.flatMap quotedChar ++ ['"']) := by
  simp [quoted]

/-! ## Control characters -/

/-- A text without control characters. -/
def Plain (text : List Char) : Prop :=
  (text.all fun c => !isControl c) = true

/-- Whether a text is plain can be decided. -/
instance {text : List Char} : Decidable (Plain text) :=
  inferInstanceAs (Decidable (_ = true))

/-- A text is plain if both of its parts are. -/
lemma plain_append {text text' : List Char} : Plain (text ++ text') ↔ Plain text ∧ Plain text' := by
  simp [Plain, List.all_append]

/-- A text is plain if its first character and the rest are. -/
lemma plain_cons {c : Char} {text : List Char} :
    Plain (c :: text) ↔ isControl c = false ∧ Plain text := by
  simp [Plain]

/-- A text is plain if each of its characters is. -/
lemma plain_of_forall {text : List Char} (each : ∀ c ∈ text, isControl c = false) : Plain text := by
  simpa [Plain] using each

/-- No digit is a control character. -/
lemma isControl_digitChar : ∀ d < 16, isControl d.digitChar = false := by decide

/-- Hexadecimal digits are plain. -/
lemma plain_hexDigits (n : Nat) : Plain (hexDigits n) := by
  induction n using hexDigits.induct with
  | case1 n small =>
    rw [hexDigits, if_pos small, Json.hexDigit_eq_digitChar n small]
    exact plain_cons.2 ⟨isControl_digitChar n small, rfl⟩
  | case2 n large ih =>
    rw [hexDigits, if_neg large, Json.hexDigit_eq_digitChar (n % 16) (by omega)]
    exact plain_append.2 ⟨ih, plain_cons.2 ⟨isControl_digitChar _ (by omega), rfl⟩⟩

/-- A quoted character is plain: a control character is escaped. -/
lemma plain_quotedChar (c : Char) : Plain (quotedChar c) := by
  unfold quotedChar
  split_ifs with quote backslash newline carriageReturn tab null visible
  all_goals try decide
  · refine plain_cons.2 ⟨?_, rfl⟩
    simp only [isVisible, Bool.and_eq_true, Bool.not_eq_true'] at visible
    exact visible.1.1
  · rw [codePointEscape, plain_append, plain_append]
    exact ⟨⟨by decide, plain_hexDigits _⟩, by decide⟩

/-- Whatever is quoted, the quotation has no control characters. -/
lemma plain_quoted (s : String) : Plain (quoted s).toList := by
  rw [toList_quoted, plain_cons, plain_append]
  refine ⟨by decide, plain_of_forall fun c member => ?_, by decide⟩
  obtain ⟨d, -, inside⟩ := List.mem_flatMap.1 member
  have plain : Plain (quotedChar d) := plain_quotedChar d
  simp only [Plain, List.all_eq_true, Bool.not_eq_true'] at plain
  exact plain c inside

/-! ## Reading quotations -/

/-- Where a reader of a message stands: outside of quotations, or in one of which it has read some
characters, possibly in the middle of an escape. -/
inductive Position where
  | outside
  | inside (read : List Char)
  | escape (read : List Char)
  | brace (read : List Char)
  | code (read : List Char) (n : Nat)

/-- The character that an escape by a letter stands for. -/
def unescaped (c : Char) : Char :=
  if c = 'n' then '\n'
  else if c = 'r' then '\r'
  else if c = 't' then '\t'
  else if c = '0' then '\x00'
  else c

/-- A reader of quotations, with those that it has read to their end. -/
structure Scan where
  found : List String
  place : Position

/-- Reads one more character. -/
def Scan.next (scan : Scan) (c : Char) : Scan :=
  match scan.place with
  | .outside => ⟨scan.found, if c = '"' then .inside [] else .outside⟩
  | .inside read =>
    if c = '"' then ⟨scan.found ++ [String.ofList read], .outside⟩
    else ⟨scan.found, if c = '\\' then .escape read else .inside (read ++ [c])⟩
  | .escape read =>
    ⟨scan.found, if c = 'u' then .brace read else .inside (read ++ [unescaped c])⟩
  | .brace read => ⟨scan.found, .code read 0⟩
  | .code read n =>
    ⟨scan.found,
      if c = '\x7d' then .inside (read ++ [Char.ofNat n])
      else .code read (n * 16 + (digitValue? 16 c).getD 0)⟩

/-- The quotations in a message, in order. -/
def quotations (message : String) : List String :=
  (message.toList.foldl Scan.next ⟨[], .outside⟩).found

variable {found quotes quotes' : List String} {read text text' : List Char}

/-- The reader gets the code back from its digits. -/
lemma foldl_hexDigits (n : Nat) :
    (hexDigits n).foldl Scan.next ⟨found, .code read 0⟩ = ⟨found, .code read n⟩ := by
  have digit (m d : Nat) (small : d < 16) :
      Scan.next ⟨found, .code read m⟩ (hexDigit d) = ⟨found, .code read (m * 16 + d)⟩ := by
    have noBrace : ∀ d < 16, hexDigit d ≠ '\x7d' := by decide
    have value : digitValue? 16 (hexDigit d) = some d := by
      rw [Json.hexDigit_eq_digitChar d small, Json.digitValue?_hexadecimal d small]
    simp only [Scan.next, if_neg (noBrace d small), value, Option.getD_some]
  induction n using hexDigits.induct with
  | case1 n small =>
    rw [hexDigits, if_pos small, List.foldl_cons, digit 0 n small, Nat.zero_mul, Nat.zero_add]
    rfl
  | case2 n large ih =>
    have whole : n / 16 * 16 + n % 16 = n := by omega
    rw [hexDigits, if_neg large, List.foldl_append, ih, List.foldl_cons,
      digit (n / 16) (n % 16) (by omega), whole]
    rfl

/-- Between quotes, a quoted character is read as itself. -/
lemma foldl_quotedChar (c : Char) :
    (quotedChar c).foldl Scan.next ⟨found, .inside read⟩ = ⟨found, .inside (read ++ [c])⟩ := by
  unfold quotedChar
  split_ifs with quote backslash newline carriageReturn tab null visible
  · rw [quote]; rfl
  · rw [backslash]; rfl
  · rw [newline]; rfl
  · rw [carriageReturn]; rfl
  · rw [tab]; rfl
  · rw [null]; rfl
  · simp [Scan.next, quote, backslash]
  · have opened : ['\\', 'u', '\x7b'].foldl Scan.next ⟨found, .inside read⟩ =
        ⟨found, .code read 0⟩ := rfl
    rw [codePointEscape, List.foldl_append, List.foldl_append, opened, foldl_hexDigits]
    simp [Scan.next]

/-- The reader gets the characters back, by induction on them. -/
lemma foldl_flatMap_quotedChar (cs : List Char) :
    (cs.flatMap quotedChar).foldl Scan.next ⟨found, .inside read⟩ =
      ⟨found, .inside (read ++ cs)⟩ := by
  induction cs generalizing read with
  | nil => simp
  | cons c cs ih =>
    rw [List.flatMap_cons, List.foldl_append, foldl_quotedChar, ih, List.append_assoc]
    rfl

/-- A text reads as some quotations, wherever it stands outside of others. -/
def Scans (text : List Char) (quotes : List String) : Prop :=
  ∀ found, text.foldl Scan.next ⟨found, .outside⟩ = ⟨found ++ quotes, .outside⟩

namespace Scans

/-- Quotations of two texts stand one after the other. -/
lemma append (scans : Scans text quotes) (scans' : Scans text' quotes') :
    Scans (text ++ text') (quotes ++ quotes') := by
  intro found
  rw [List.foldl_append, scans, scans', List.append_assoc]

/-- Without quotes, there is no quotation. -/
lemma unquoted (none : '"' ∉ text) : Scans text [] := by
  intro found
  rw [List.append_nil]
  induction text with
  | nil => rfl
  | cons c text ih =>
    rw [List.mem_cons, not_or] at none
    have stays : Scan.next ⟨found, .outside⟩ c = ⟨found, .outside⟩ := by
      simp only [Scan.next, if_neg (Ne.symm none.1)]
    rw [List.foldl_cons, stays, ih none.2]

/-- A quotation reads as what is quoted, whatever this is. -/
lemma quoted (s : String) : Scans (quoted s).toList [s] := by
  intro found
  have opened : Scan.next ⟨found, .outside⟩ '"' = ⟨found, .inside []⟩ := rfl
  have closed : Scan.next ⟨found, .inside s.toList⟩ '"' = ⟨found ++ [s], .outside⟩ := by
    simp [Scan.next]
  rw [toList_quoted, List.foldl_cons, opened, List.foldl_append, foldl_flatMap_quotedChar,
    List.nil_append, List.foldl_cons, closed]
  rfl

/-- A text that reads as some quotations has just these. -/
lemma quotations {message : String} (scans : Scans message.toList quotes) :
    quotations message = quotes := by
  rw [Text.quotations, scans]
  rfl

end Scans

/-- The same reader, with some quotations found before. -/
def Scan.after (found : List String) (scan : Scan) : Scan :=
  ⟨found ++ scan.found, scan.place⟩

/-- The quotations found before do not matter to the reader. -/
lemma next_after (scan : Scan) (c : Char) :
    (scan.after found).next c = (scan.next c).after found := by
  obtain ⟨read, place⟩ := scan
  cases place with
  | inside read => by_cases closing : c = '"' <;> simp [Scan.next, Scan.after, closing]
  | _ => rfl

/-- What was found before has no influence. -/
lemma foldl_after (text : List Char) (found : List String) (scan : Scan) :
    text.foldl Scan.next (scan.after found) = (text.foldl Scan.next scan).after found := by
  induction text generalizing scan with
  | nil => rfl
  | cons c text ih => rw [List.foldl_cons, List.foldl_cons, next_after, ih]

/-- A text reads so wherever it stands if it does at the beginning. -/
lemma Scans.of_foldl (read : text.foldl Scan.next ⟨[], .outside⟩ = ⟨quotes, .outside⟩) :
    Scans text quotes := by
  intro found
  have scanned := foldl_after text found ⟨[], .outside⟩
  rw [read] at scanned
  simpa [Scan.after] using scanned

/-- The first quotation of a text is read whatever follows. -/
lemma head?_quotations {s message : String} (scans : Scans text [s])
    (begins : text <+: message.toList) : (quotations message).head? = some s := by
  obtain ⟨rest, whole⟩ := begins
  have read := foldl_after rest [s] ⟨[], .outside⟩
  rw [quotations, ← whole, List.foldl_append, scans]
  exact congrArg (·.found.head?) read

/-- No quotation is the beginning of another one. -/
lemma quoted_append_inj {s s' : String} {rest rest' : List Char}
    (same : (quoted s).toList ++ rest = (quoted s').toList ++ rest') : s = s' ∧ rest = rest' := by
  have read (s : String) (rest : List Char) :
      (quotations (String.ofList ((quoted s).toList ++ rest))).head? = some s := by
    refine head?_quotations (Scans.quoted s) ?_
    rw [String.toList_ofList]
    exact List.prefix_append _ rest
  have equal : s = s' := by
    rw [← Option.some.injEq, ← read s rest, same, read s' rest']
  subst equal
  exact ⟨rfl, List.append_cancel_left same⟩

end Text

namespace Config
open Text

/-! ## Faults -/

namespace Fault

/-- The text of the user that a fault is about, where it quotes one. -/
def given? : Fault → Option String
  | .httpPort spec => some spec
  | .grpcPort spec => some spec
  | .sharedPort _ => none
  | .noRequestTime => none
  | .noStopTime => none
  | .logLevel level => some level
  | .logFormat form => some form
  | .metricsAddress address => some address

/-- What the text of a fault ends with: what the fault is about, where this varies. -/
def ending : Fault → String
  | .httpPort spec => quoted spec
  | .grpcPort spec => quoted spec
  | .sharedPort port => toString port ++ " is already used by http"
  | .noRequestTime => ""
  | .noStopTime => ""
  | .logLevel level => quoted level
  | .logFormat form => quoted form
  | .metricsAddress address => quoted address

end Fault

/-- What is wrong where a rule is broken, up to what varies. -/
def Rule.words : Rule → String
  | .httpPort => "invalid port "
  | .grpcPort => "invalid port "
  | .sharedPort => "port "
  | .requestTime => "must be greater than 0"
  | .stopTime => "must be greater than 0"
  | .logLevel => "unknown level "
  | .logFormat => "expected \"pretty\" or \"json\", got "
  | .metricsAddress => "not a socket address: "

/-- What the text of a fault begins with, by the rule that is broken. -/
def Rule.opening (rule : Rule) : String :=
  (rule.items.head?.map Item.path).getD "" ++ ": " ++ rule.words

/-- What the text of a fault quotes by itself. -/
def Rule.names : Rule → List String
  | .logFormat => formatNames
  | _ => []

namespace Fault

/-- The message of a fault is what its rule says, with what the fault is about. -/
lemma message_eq (fault : Fault) : fault.message = fault.rule.words ++ fault.ending := by
  cases fault with
  | sharedPort port => exact String.append_assoc
  | noRequestTime => decide
  | noStopTime => decide
  | _ => rfl

/-- The text of a fault is the opening of its rule, with what the fault is about. -/
lemma text_eq (fault : Fault) : fault.text = fault.rule.opening ++ fault.ending := by
  rw [text, message_eq, Rule.opening, path_items, Option.getD_some]
  exact String.append_assoc.symm

/-- The opening of a rule quotes just its names. -/
lemma scans_opening (rule : Rule) : Scans rule.opening.toList rule.names := by
  refine .of_foldl ?_
  cases rule <;> rfl

/-- The opening of a rule is plain. -/
lemma plain_opening (rule : Rule) : Plain rule.opening.toList := by
  cases rule <;> decide

/-- No opening is the beginning of another one. -/
lemma opening_inj {rule rule' : Rule} (begins : rule.opening.toList <+: rule'.opening.toList) :
    rule = rule' := by
  revert begins
  cases rule <;> cases rule' <;> decide

/-- A port is written with digits. -/
lemma isDigit_of_mem {port : Nat} {c : Char} (member : c ∈ (toString port).toList) :
    c.isDigit := by
  rw [Nat.toString_eq_repr, Nat.toList_repr] at member
  exact Nat.isDigit_of_mem_toDigits (by decide) (by decide) member

/-- A port is known from its digits. -/
lemma toString_inj {port port' : Nat} (same : (toString port).toList = (toString port').toList) :
    port = port' := by
  rw [Nat.toString_eq_repr, Nat.toString_eq_repr, Nat.toList_repr, Nat.toList_repr] at same
  have read (port : Nat) : Nat.ofDigitChars 10 (Nat.toDigits 10 port) 0 = port :=
    Nat.ofDigitChars_toDigits (by decide) (by decide)
  rw [← read port, same, read port']

/-- A digit is no control character. -/
lemma isControl_of_isDigit {c : Char} (digit : c.isDigit) : isControl c = false := by
  rw [Char.isDigit, Bool.and_eq_true, decide_eq_true_iff, decide_eq_true_iff] at digit
  have low : 48 ≤ c.toNat := digit.1
  have high : c.toNat ≤ 57 := digit.2
  simp only [isControl, Bool.or_eq_false_iff, Bool.and_eq_false_imp, decide_eq_false_iff_not,
    decide_eq_true_iff]
  omega

/-- What a fault is about is quoted, where it is a text of the user. -/
lemma scans_ending (fault : Fault) : Scans fault.ending.toList fault.given?.toList := by
  cases fault with
  | sharedPort port =>
    refine .unquoted fun member => ?_
    rw [ending, String.toList_append, List.mem_append] at member
    rcases member with digit | word
    · exact absurd (isDigit_of_mem digit) (by decide)
    · exact absurd word (by decide)
  | noRequestTime => exact .unquoted (by decide)
  | noStopTime => exact .unquoted (by decide)
  | _ => exact .quoted _

/-- What a fault is about is plain. -/
lemma plain_ending (fault : Fault) : Plain fault.ending.toList := by
  cases fault with
  | sharedPort port =>
    rw [ending, String.toList_append, plain_append]
    refine ⟨plain_of_forall fun c digit => ?_, by decide⟩
    exact isControl_of_isDigit (isDigit_of_mem digit)
  | noRequestTime => decide
  | noStopTime => decide
  | _ => exact plain_quoted _

/-- The text of a fault quotes the names of its rule, and what the user wrote. -/
lemma scans_text (fault : Fault) :
    Scans fault.text.toList (fault.rule.names ++ fault.given?.toList) := by
  rw [text_eq, String.toList_append]
  exact (scans_opening fault.rule).append fault.scans_ending

/-- What the user wrote is the last quotation in the text of a fault. -/
lemma getLast?_quotations (fault : Fault) : (quotations fault.text).getLast? = fault.given? := by
  rw [fault.scans_text.quotations]
  cases fault <;> rfl

/-- The text of a fault is plain. -/
lemma plain_text (fault : Fault) : Plain fault.text.toList := by
  rw [text_eq, String.toList_append, plain_append]
  exact ⟨plain_opening fault.rule, fault.plain_ending⟩

/-- No text of a fault is the beginning of another one. -/
lemma text_append_inj {fault fault' : Fault} {rest rest' : List Char}
    (same : fault.text.toList ++ rest = fault'.text.toList ++ rest') :
    fault = fault' ∧ rest = rest' := by
  rw [text_eq, text_eq, String.toList_append, String.toList_append, List.append_assoc,
    List.append_assoc] at same
  -- no opening begins with another one, so the text tells which rule is broken
  have rules : fault.rule = fault'.rule := by
    have begins := List.prefix_append fault'.rule.opening.toList (fault'.ending.toList ++ rest')
    rw [← same] at begins
    rcases List.prefix_or_prefix_of_prefix begins (List.prefix_append _ _) with before | after
    · exact (opening_inj before).symm
    · exact opening_inj after
  rw [rules] at same
  have endings : fault.ending.toList ++ rest = fault'.ending.toList ++ rest' :=
    List.append_cancel_left same
  cases fault <;> cases fault' <;> try cases rules
  case sharedPort.sharedPort port port' =>
    have numbers : (toString port).toList = (toString port').toList := by
      rw [ending, ending, String.toList_append, String.toList_append, List.append_assoc,
        List.append_assoc] at endings
      -- the digits of the port go on to the first blank
      have noBlank (port : Nat) : ' ' ∉ (toString port).toList := fun member =>
        absurd (isDigit_of_mem member) (by decide)
      exact Environment.append_cons_inj (noBlank port) (noBlank port') endings
    cases toString_inj numbers
    exact ⟨rfl, List.append_cancel_left endings⟩
  case noRequestTime.noRequestTime => exact ⟨rfl, endings⟩
  case noStopTime.noStopTime => exact ⟨rfl, endings⟩
  all_goals
    obtain ⟨rfl, rests⟩ := quoted_append_inj endings
    exact ⟨rfl, rests⟩

end Fault

/-! ## Load errors -/

/-- The text of an item, where it is one. -/
def Item.text? (c : Config) : Item → Option String
  | .httpPort => some c.http.port
  | .grpcPort => some c.grpc.port
  | .logLevel => some c.observability.logLevel
  | .logFormat => some c.observability.logFormat
  | .metricsAddress => some c.observability.metricsAddress
  | _ => none

/-- What a fault quotes of the user is what the configuration has at its field. -/
lemma Breach.given {c : Config} {fault : Fault} {given : String} (breach : Breach c fault)
    (some : fault.given? = some given) :
    ∃ item : Item, item.path = fault.field ∧ item.text? c = .some given := by
  cases breach with
  | httpPort => exact ⟨.httpPort, rfl, some⟩
  | grpcPort => exact ⟨.grpcPort, rfl, some⟩
  | logLevel => exact ⟨.logLevel, rfl, some⟩
  | logFormat => exact ⟨.logFormat, rfl, some⟩
  | metricsAddress => exact ⟨.metricsAddress, rfl, some⟩
  | _ => cases some

/-- The texts of faults after the first one. -/
def laterTexts (fs : List Fault) : List Char :=
  fs.flatMap fun fault => ',' :: ' ' :: fault.text.toList

/-- The texts of faults are put one after the other. -/
lemma toList_texts (fault : Fault) (others : List Fault) :
    (", ".intercalate ((fault :: others).map Fault.text)).toList =
      fault.text.toList ++ laterTexts others := by
  induction others generalizing fault with
  | nil => rw [List.map_cons, List.map_nil, String.intercalate_singleton, laterTexts,
      List.flatMap_nil, List.append_nil]
  | cons other others ih =>
    have joined : ", ".intercalate ((fault :: other :: others).map Fault.text) =
        fault.text ++ ", " ++ ", ".intercalate ((other :: others).map Fault.text) :=
      String.intercalate_cons_of_ne_nil (List.cons_ne_nil _ _)
    rw [joined, String.toList_append, String.toList_append, ih, List.append_assoc]
    rfl

/-- The message of an invalid configuration has the texts of all faults. -/
lemma toList_message_invalid {fault : Fault} {others : List Fault} :
    (LoadError.message (.invalid ⟨fault, others⟩)).toList =
      "Validation failed: ".toList ++ (fault.text.toList ++ laterTexts others) := by
  have parts : LoadError.message (.invalid ⟨fault, others⟩) =
      "Validation failed: " ++ ", ".intercalate ((fault :: others).map Fault.text) := rfl
  rw [parts, String.toList_append, toList_texts]

/-- The later texts quote what their faults quote. -/
lemma scans_laterTexts (fs : List Fault) :
    Scans (laterTexts fs) (fs.flatMap fun fault => quotations fault.text) := by
  induction fs with
  | nil => exact .unquoted (by decide)
  | cons fault fs ih =>
    have text := fault.scans_text
    have comma : Scans [',', ' '] [] := .unquoted (by decide)
    rw [← text.quotations] at text
    exact (comma.append text).append ih

/-- The later texts are plain. -/
lemma plain_laterTexts (fs : List Fault) : Plain (laterTexts fs) := by
  induction fs with
  | nil => rfl
  | cons fault fs ih =>
    refine plain_append.2 ⟨plain_cons.2 ⟨rfl, plain_cons.2 ⟨rfl, ?_⟩⟩, ih⟩
    exact fault.plain_text

/-- The later texts are known from what they make together. -/
lemma laterTexts_inj {fs fs' : List Fault} (same : laterTexts fs = laterTexts fs') : fs = fs' := by
  induction fs generalizing fs' with
  | nil =>
    cases fs' with
    | nil => rfl
    | cons => cases same
  | cons fault fs ih =>
    cases fs' with
    | nil => cases same
    | cons fault' fs' =>
      obtain ⟨rfl, later⟩ := Fault.text_append_inj (List.cons.inj (List.cons.inj same).2).2
      rw [ih later]

/-- The load errors that quote what the user wrote. -/
inductive LoadError.Quotes : LoadError → Prop where
  | environment {reason} : Quotes (.environment reason)
  | invalid {faults} : Quotes (.invalid faults)

/-- The message of an environment quotes the value and names the variable. -/
lemma toList_message_environment {reason : OverlayError} :
    (LoadError.message (.environment reason)).toList =
      "invalid value ".toList ++ ((quoted reason.value).toList ++
        (" for ".toList ++ reason.name.toList)) := by
  have parts : LoadError.message (.environment reason) =
      "invalid value " ++ quoted reason.value ++ " for " ++ reason.name := rfl
  rw [parts, String.toList_append, String.toList_append, String.toList_append, List.append_assoc,
    List.append_assoc]

/-- The message of an invalid configuration is plain. -/
lemma plain_message_invalid (fs : Errors Fault) :
    Plain (LoadError.message (.invalid fs)).toList := by
  obtain ⟨fault, others⟩ := fs
  rw [toList_message_invalid, plain_append, plain_append]
  exact ⟨by decide, fault.plain_text, plain_laterTexts others⟩

/-- The message of an invalid configuration quotes what its faults quote. -/
lemma quotations_message_invalid (fs : Errors Fault) :
    quotations (LoadError.message (.invalid fs)) =
      fs.toList.flatMap fun fault => quotations fault.text := by
  obtain ⟨fault, others⟩ := fs
  have text := fault.scans_text
  rw [← text.quotations] at text
  have words : Scans "Validation failed: ".toList [] := .unquoted (by decide)
  have all := words.append (text.append (scans_laterTexts others))
  rw [← toList_message_invalid] at all
  exact all.quotations

/-- The message of an environment is plain if the name is. -/
lemma plain_message_environment {reason : OverlayError} (plain : Plain reason.name.toList) :
    Plain (LoadError.message (.environment reason)).toList := by
  rw [toList_message_environment, plain_append, plain_append, plain_append]
  exact ⟨by decide, plain_quoted reason.value, by decide, plain⟩

/-- The first quotation in the message of an environment is the value. -/
lemma head?_quotations_environment (reason : OverlayError) :
    (quotations (LoadError.message (.environment reason))).head? = some reason.value := by
  have words : Scans "invalid value ".toList [] := .unquoted (by decide)
  refine head?_quotations (words.append (.quoted reason.value)) ?_
  rw [toList_message_environment, ← List.append_assoc]
  exact List.prefix_append _ _

/-- Different errors that quote have different messages. -/
lemma message_inj {e e' : LoadError} (quotes : e.Quotes) (quotes' : e'.Quotes)
    (same : e.message = e'.message) : e = e' := by
  have same := congrArg String.toList same
  cases quotes with
  | @environment reason =>
    cases quotes' with
    | @environment reason' =>
      rw [toList_message_environment, toList_message_environment] at same
      -- the closing quotes of the value are found, whatever it contains
      obtain ⟨values, rest⟩ := quoted_append_inj (List.append_cancel_left same)
      have names := String.toList_injective (List.append_cancel_left rest)
      cases reason
      cases reason'
      cases values
      cases names
      rfl
    | @invalid fs =>
      rw [toList_message_environment, toList_message_invalid] at same
      cases same
  | @invalid fs =>
    cases quotes' with
    | @environment reason =>
      rw [toList_message_environment, toList_message_invalid] at same
      cases same
    | @invalid fs' =>
      rw [toList_message_invalid, toList_message_invalid] at same
      obtain ⟨first, later⟩ := Fault.text_append_inj (List.append_cancel_left same)
      cases fs
      cases fs'
      cases first
      cases laterTexts_inj later
      rfl

variable {text? : String → Option String} {stem : String}

/-- The name of a variable is plain if its two parts are. -/
lemma plain_variableName {suffix : String} (stemPlain : Plain stem.toList)
    (suffixPlain : Plain suffix.toList) : Plain (variableName stem suffix).toList := by
  rw [variableName, String.toList_append, String.toList_append, plain_append, plain_append]
  exact ⟨⟨stemPlain, by decide⟩, suffixPlain⟩

/-- A configuration is not overlaid only if the timeout is misset. -/
lemma misset_of_overlaid {c : Config} {reason : OverlayError}
    (failed : overlaid text? stem c = .error (.environment reason)) :
    Misset text? stem reason := by
  rcases overlaid_cases text? stem c with ⟨e, misset, error⟩ | ⟨-, fine⟩
  · cases error.symm.trans failed
    exact misset
  · cases fine.symm.trans failed

/-- The message of a misset timeout is plain if the stem is. -/
lemma Misset.plain_message {reason : OverlayError} (misset : Misset text? stem reason)
    (plain : Plain stem.toList) : Plain (LoadError.message (.environment reason)).toList := by
  refine plain_message_environment ?_
  rw [misset.name]
  exact plain_variableName plain (by decide)

/-- No message about a configuration can be forged. A text is quoted character by character.
Whatever a user writes, the message has no control characters, and what it quotes is read back from
it: from the text of one broken rule, from the texts of several, and from that of a variable.
Different faults have different texts, and different errors of validation or of the environment have
different messages. -/
theorem messages_unforged {stem : String} (plain : Plain stem.toList) :
    (∀ s, ∃ pieces, List.Forall₂ QuotedAs s.toList pieces ∧
      (quoted s).toList = '"' :: (pieces.flatten ++ ['"'])) ∧
      (∀ fault : Fault,
        Plain fault.text.toList ∧ (quotations fault.text).getLast? = fault.given?) ∧
      (∀ fs : Errors Fault,
        Plain (LoadError.message (.invalid fs)).toList ∧
        quotations (LoadError.message (.invalid fs)) =
          fs.toList.flatMap fun fault => quotations fault.text) ∧
      (∀ ⦃text? c reason⦄, overlaid text? stem c = .error (.environment reason) →
        Plain (LoadError.message (.environment reason)).toList ∧
        (quotations (LoadError.message (.environment reason))).head? = some reason.value) ∧
      (∀ ⦃content? text? e⦄, loadWith content? text? stem = .error e → e.Quotes →
        Plain e.message.toList) ∧
      (∀ c, ∀ fault ∈ faults c, ∀ given, fault.given? = some given →
        ∃ item : Item, item.path = fault.field ∧ item.text? c = some given) ∧
      (∀ ⦃text? c reason⦄, overlaid text? stem c = .error (.environment reason) →
        text? reason.name = some reason.value) ∧
      (∀ fault fault' : Fault, fault.text = fault'.text → fault = fault') ∧
      ∀ e e' : LoadError, e.Quotes → e'.Quotes → e.message = e'.message → e = e' := by
  refine ⟨fun s => ?_, fun fault => ⟨fault.plain_text, fault.getLast?_quotations⟩,
    fun fs => ⟨plain_message_invalid fs, quotations_message_invalid fs⟩, ?_, ?_, ?_, ?_, ?_, ?_⟩
  · refine ⟨s.toList.map quotedChar, ?_, ?_⟩
    · rw [List.forall₂_map_right_iff, List.forall₂_same]
      exact fun c _ => quotedAs_quotedChar c
    · rw [toList_quoted, List.flatMap_def]
  · intro text? c reason failed
    exact ⟨(misset_of_overlaid failed).plain_message plain, head?_quotations_environment reason⟩
  · intro content? text? e failed quotes
    have loads : Loads text? stem content? (.error e) := loadWith_eq_iff.1 failed
    cases loads with
    -- the texts of files and documents are not among the quoted errors
    | unparsed parses =>
      cases quotes with
      | environment => cases parses
      | invalid => cases parses
    | misset _ misset => exact misset.plain_message plain
    | invalid => exact plain_message_invalid _
  · exact fun c fault broken given some => (mem_faults_iff.1 broken).given some
  · exact fun text? c reason failed => (misset_of_overlaid failed).set
  · intro fault fault' same
    have same := congrArg (fun text => text.toList ++ []) same
    exact (Fault.text_append_inj same).1
  · exact fun e e' quotes quotes' => message_inj quotes quotes'

/-- A value that pretends to end its quotation and its line, and to go on with another message. -/
theorem messages_unforged_forgery :
    let value := "1\" for X\nlevel \"info\"\x1b"
    let reason : OverlayError := ⟨"SVC_SHUTDOWN_TIMEOUT_MS", value⟩
    let text? (name : String) : Option String := if name = reason.name then some value else none
    let e : LoadError := .environment reason
    Plain "SVC".toList ∧
      loadWith none text? "SVC" = .error e ∧
      e.message =
        "invalid value \"1\\\" for X\\nlevel \\\"info\\\"\\u\x7b1b\x7d\" for " ++ reason.name ∧
      Plain e.message.toList ∧
      (quotations e.message).head? = some value ∧
      e.message ≠ LoadError.message (.environment ⟨reason.name, "1"⟩) := by
  intro value reason text? e
  have plain : Plain "SVC".toList := by decide
  have unforged := messages_unforged plain
  have misset : Misset text? "SVC" reason := ⟨by decide +kernel, rfl, by decide +kernel⟩
  have failed : overlaid text? "SVC" {} = .error e := overlaid_of_misset misset
  obtain ⟨visible, read⟩ := unforged.2.2.2.1 failed
  refine ⟨plain, (Loads.misset .defaults misset).eq_loadWith, by decide +kernel, visible, read,
    fun same => ?_⟩
  have reasons := unforged.2.2.2.2.2.2.2.2 _ _ .environment .environment same
  exact absurd (congrArg OverlayError.value (LoadError.environment.inj reasons)) (by decide)

end Config

end Supervision
