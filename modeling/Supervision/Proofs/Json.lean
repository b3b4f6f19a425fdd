import Mathlib.Data.List.TakeWhile
import Mathlib.Tactic.Lemma
import Supervision.Text.Number

/-!
# Texts of JSON

What a text of JSON says, by its grammar and not by a reader of it. In `Writes spells text v rest` a
text begins with a value, and `rest` is what comes after. The way in which strings are spelled is a
parameter: `Spells` is every way that the grammar permits. `IsText.unique` says that a text never
has two values.
-/

namespace Supervision.Json

/-- A value of JSON. A number is kept as it is written. -/
inductive Value where
  | null
  | boolean (b : Bool)
  | number (numeral : List Char)
  | string (s : String)
  | array (elements : List Value)
  | object (members : List (String × Value))

/-! ## Blanks -/

/-- A character that may stand between the parts of a text. -/
def isSpace (c : Char) : Bool :=
  c = ' ' || c = '\t' || c = '\n' || c = '\r'

/-- A text begins with blanks or not. -/
inductive Blanks : List Char → List Char → Prop where
  | none {rest} :
    Blanks rest rest
  | more {c text rest} :
    isSpace c →
    Blanks text rest →
    Blanks (c :: text) rest

/-- A character that may follow a value. -/
def isClosing (c : Char) : Bool :=
  c = ',' || c = ']' || c = '\x7d'

/-! ## Numbers -/

/-- At least one digit. -/
structure IsDigits (cs : List Char) : Prop where
  some : cs ≠ []
  digits : ∀ c ∈ cs, c.isDigit

/-- A number without a sign, a fraction and an exponent. -/
inductive IsWhole : List Char → Prop where
  | zero :
    IsWhole ['0']
  | digits {c cs} :
    c ≠ '0' →
    IsDigits (c :: cs) →
    IsWhole (c :: cs)

/-- What may come between a whole number and its exponent. -/
inductive IsFraction : List Char → Prop where
  | none :
    IsFraction []
  | digits {cs} :
    IsDigits cs →
    IsFraction ('.' :: cs)

/-- What may come at the end of a number. -/
inductive IsExponent : List Char → Prop where
  | none :
    IsExponent []
  | plain {e cs} :
    e = 'e' ∨ e = 'E' →
    IsDigits cs →
    IsExponent (e :: cs)
  | signed {e sign cs} :
    e = 'e' ∨ e = 'E' →
    sign = '+' ∨ sign = '-' →
    IsDigits cs →
    IsExponent (e :: sign :: cs)

/-- A number. -/
inductive IsNumber : List Char → Prop where
  | positive {whole fraction exponent} :
    IsWhole whole →
    IsFraction fraction →
    IsExponent exponent →
    IsNumber (whole ++ fraction ++ exponent)
  | negative {numeral} :
    IsNumber numeral →
    IsNumber ('-' :: numeral)

/-! ## Strings -/

/-- The character that a letter after a backslash stands for. -/
inductive Short : Char → Char → Prop where
  | quote : Short '"' '"'
  | backslash : Short '\\' '\\'
  | slash : Short '/' '/'
  | backspace : Short 'b' '\x08'
  | formFeed : Short 'f' '\x0c'
  | newline : Short 'n' '\n'
  | carriageReturn : Short 'r' '\r'
  | tab : Short 't' '\t'

/-- A text begins with four hexadecimal digits. -/
inductive CodeUnit : List Char → Nat → List Char → Prop where
  | digits {a b c d values rest} :
    [a, b, c, d].mapM (Text.digitValue? 16) = some values →
    CodeUnit (a :: b :: c :: d :: rest) (Text.ofDigits 16 values) rest

/-- What may stand after a backslash. A character beyond the code units takes two of them; half of
such a pair is no character. -/
inductive Escape : List Char → Char → List Char → Prop where
  | short {e c rest} :
    Short e c →
    Escape (e :: rest) c rest
  | unit {c text rest} :
    CodeUnit text c.toNat rest →
    Escape ('u' :: text) c rest
  | pair {c text text' rest high low} :
    CodeUnit text (0xD800 + high) ('\\' :: 'u' :: text') →
    high < 0x400 →
    CodeUnit text' (0xDC00 + low) rest →
    low < 0x400 →
    c.toNat = 0x10000 + 0x400 * high + low →
    Escape ('u' :: text) c rest

/-- The ways in which characters may be spelled, to the end of their quotes. -/
inductive Spells : List Char → List Char → List Char → Prop where
  | close {rest} :
    Spells ('"' :: rest) [] rest
  | plain {c text cs rest} :
    c ≠ '"' →
    c ≠ '\\' →
    0x20 ≤ c.toNat →
    Spells text cs rest →
    Spells (c :: text) (c :: cs) rest
  | escape {c text text' cs rest} :
    Escape text c text' →
    Spells text' cs rest →
    Spells ('\\' :: text) (c :: cs) rest

/-! ## Values -/

variable (spells : List Char → List Char → List Char → Prop)

/-- A text begins with a key and its colon. -/
inductive Key : List Char → String → List Char → Prop where
  | mk {text text' text'' cs rest} :
    Blanks text ('"' :: text') →
    spells text' cs text'' →
    Blanks text'' (':' :: rest) →
    Key text (.ofList cs) rest

mutual

/-- A text begins with a value. -/
inductive Writes : List Char → Value → List Char → Prop where
  | null {rest} :
    Writes ('n' :: 'u' :: 'l' :: 'l' :: rest) .null rest
  | true {rest} :
    Writes ('t' :: 'r' :: 'u' :: 'e' :: rest) (.boolean true) rest
  | false {rest} :
    Writes ('f' :: 'a' :: 'l' :: 's' :: 'e' :: rest) (.boolean false) rest
  | number {text numeral rest} :
    IsNumber numeral →
    text = numeral ++ rest →
    Writes text (.number numeral) rest
  | string {text cs rest} :
    spells text cs rest →
    Writes ('"' :: text) (.string (.ofList cs)) rest
  | emptyArray {text rest} :
    Blanks text (']' :: rest) →
    Writes ('[' :: text) (.array []) rest
  | array {text vs rest} :
    Elements text vs rest →
    Writes ('[' :: text) (.array vs) rest
  | emptyObject {text rest} :
    Blanks text ('\x7d' :: rest) →
    Writes ('\x7b' :: text) (.object []) rest
  | object {text members rest} :
    Members text members rest →
    Writes ('\x7b' :: text) (.object members) rest

/-- A text begins with a value between blanks. -/
inductive Spaced : List Char → Value → List Char → Prop where
  | mk {text text' v rest' rest} :
    Blanks text text' →
    Writes text' v rest' →
    Blanks rest' rest →
    Spaced text v rest

/-- A text begins with the elements of an array, to its end. -/
inductive Elements : List Char → List Value → List Char → Prop where
  | mk {text text' v vs rest} :
    Spaced text v text' →
    FurtherElements text' vs rest →
    Elements text (v :: vs) rest

/-- A text goes on after an element. -/
inductive FurtherElements : List Char → List Value → List Char → Prop where
  | none {rest} :
    FurtherElements (']' :: rest) [] rest
  | some {text vs rest} :
    Elements text vs rest →
    FurtherElements (',' :: text) vs rest

/-- A text begins with the members of an object, to its end. -/
inductive Members : List Char → List (String × Value) → List Char → Prop where
  | mk {text text' text'' key v members rest} :
    Key spells text key text' →
    Spaced text' v text'' →
    FurtherMembers text'' members rest →
    Members text ((key, v) :: members) rest

/-- A text goes on after a member. -/
inductive FurtherMembers : List Char → List (String × Value) → List Char → Prop where
  | none {rest} :
    FurtherMembers ('\x7d' :: rest) [] rest
  | some {text members rest} :
    Members text members rest →
    FurtherMembers (',' :: text) members rest

end

/-- A text is a value, and nothing else. -/
def IsText (text : String) (v : Value) : Prop :=
  Spaced spells text.toList v []

/-! ## One reading -/

variable {spells} {text rest rest' : List Char} {v v' : Value}

/-- A text determines what is read from it, and where the reading ends. -/
def Determines {α : Type} (reads : List Char → α → List Char → Prop) : Prop :=
  ∀ ⦃text a rest a' rest'⦄, reads text a rest → reads text a' rest' → a = a' ∧ rest = rest'

/-- No blank comes first. -/
def Stops (text : List Char) : Prop :=
  ∀ c ∈ text.head?, ¬isSpace c

/-- A character of its own stops the blanks. -/
lemma stops_cons {c : Char} (own : ¬isSpace c) : Stops (c :: text) := by
  intro c head
  cases head
  exact own

/-- Blanks go on to the first character of another kind. -/
lemma Blanks.eq_dropWhile (blanks : Blanks text rest) (stops : Stops rest) :
    rest = text.dropWhile isSpace := by
  induction blanks with
  | @none rest =>
    cases rest with
    | nil => rfl
    | cons c rest => exact (List.dropWhile_cons_of_neg (stops c rfl)).symm
  | more space _ ih => rw [List.dropWhile_cons_of_pos space, ← ih stops]

/-- Blanks have one end only, if no blank comes after it. -/
lemma Blanks.unique (blanks : Blanks text rest) (blanks' : Blanks text rest') (stops : Stops rest)
    (stops' : Stops rest') : rest = rest' :=
  (blanks.eq_dropWhile stops).trans (blanks'.eq_dropWhile stops').symm

/-! ### Numbers -/

/-- A character of a number. -/
def isNumeric (c : Char) : Bool :=
  c.isDigit || c = '-' || c = '+' || c = '.' || c = 'e' || c = 'E'

/-- Digits are characters of numbers. -/
lemma IsDigits.numeric {cs : List Char} (digits : IsDigits cs) : ∀ c ∈ cs, isNumeric c := by
  intro c member
  rw [isNumeric, digits.digits c member]
  rfl

/-- A whole number consists of characters of numbers. -/
lemma IsWhole.numeric {cs : List Char} (whole : IsWhole cs) : ∀ c ∈ cs, isNumeric c := by
  cases whole with
  | zero => exact List.forall_mem_singleton.2 rfl
  | digits _ digits => exact digits.numeric

/-- A fraction consists of characters of numbers. -/
lemma IsFraction.numeric {cs : List Char} (fraction : IsFraction cs) : ∀ c ∈ cs, isNumeric c := by
  cases fraction with
  | none =>
    intro c member
    cases member
  | digits digits => exact List.forall_mem_cons.2 ⟨rfl, digits.numeric⟩

/-- An exponent consists of characters of numbers. -/
lemma IsExponent.numeric {cs : List Char} (exponent : IsExponent cs) : ∀ c ∈ cs, isNumeric c := by
  cases exponent with
  | none =>
    intro c member
    cases member
  | plain letter digits =>
    refine List.forall_mem_cons.2 ⟨?_, digits.numeric⟩
    rcases letter with rfl | rfl <;> rfl
  | signed letter sign digits =>
    refine List.forall_mem_cons.2 ⟨?_, List.forall_mem_cons.2 ⟨?_, digits.numeric⟩⟩
    · rcases letter with rfl | rfl <;> rfl
    · rcases sign with rfl | rfl <;> rfl

/-- A number consists of characters of numbers. -/
lemma IsNumber.numeric {cs : List Char} (number : IsNumber cs) : ∀ c ∈ cs, isNumeric c := by
  induction number with
  | positive whole fraction exponent =>
    exact List.forall_mem_append.2
      ⟨List.forall_mem_append.2 ⟨whole.numeric, fraction.numeric⟩, exponent.numeric⟩
  | negative _ ih => exact List.forall_mem_cons.2 ⟨rfl, ih⟩

/-- The first character of a text may begin a number. -/
def beginsNumber : List Char → Bool
  | [] => false
  | c :: _ => c = '-' || c.isDigit

/-- A number begins as numbers do. -/
lemma IsNumber.begins {cs : List Char} (number : IsNumber cs) (rest : List Char) :
    beginsNumber (cs ++ rest) := by
  cases number with
  | positive whole =>
    cases whole with
    | zero => rfl
    | digits _ digits =>
      have first := digits.digits _ List.mem_cons_self
      simp [beginsNumber, first]
  | negative => rfl

/-- A value may end before a text. -/
def Ends (rest : List Char) : Prop :=
  ∀ c ∈ rest.head?, isSpace c ∨ isClosing c

/-- A blank, or what closes something, is no character of a number. -/
lemma not_numeric {c : Char} (ends : isSpace c ∨ isClosing c) : ¬isNumeric c := by
  rcases ends with space | closing
  · simp only [isSpace, Bool.or_eq_true, decide_eq_true_eq] at space
    rcases space with ((rfl | rfl) | rfl) | rfl <;> decide
  · simp only [isClosing, Bool.or_eq_true, decide_eq_true_eq] at closing
    rcases closing with (rfl | rfl) | rfl <;> decide

/-- A character that closes something is no blank. -/
lemma not_space {c : Char} (closing : isClosing c) : ¬isSpace c := by
  simp only [isClosing, Bool.or_eq_true, decide_eq_true_eq] at closing
  rcases closing with (rfl | rfl) | rfl <;> decide

/-- A number goes on to the first character of another kind. -/
lemma IsNumber.eq_takeWhile {cs : List Char} (number : IsNumber cs) (ends : Ends rest) :
    cs = (cs ++ rest).takeWhile isNumeric := by
  rw [List.takeWhile_append_of_pos number.numeric]
  cases rest with
  | nil => exact (List.append_nil cs).symm
  | cons c rest =>
    rw [List.takeWhile_cons_of_neg (not_numeric (ends c rfl)), List.append_nil]

/-! ### Strings -/

/-- Four digits determine their code unit. -/
lemma codeUnit_unique : Determines CodeUnit := by
  intro text n rest n' rest' unit unit'
  cases unit with
  | digits values =>
    cases unit' with
    | digits values' =>
      cases values.symm.trans values'
      exact ⟨rfl, rfl⟩

/-- A character is no half of a pair. -/
lemma not_half (c : Char) : c.toNat < 0xD800 ∨ 0xDFFF < c.toNat :=
  c.valid.imp id And.left

/-- A letter after a backslash stands for one character. -/
lemma Short.unique {e c c' : Char} (short : Short e c) (short' : Short e c') : c = c' := by
  cases short <;> cases short' <;> rfl

/-- What comes after a backslash determines its character. -/
lemma escape_unique : Determines Escape := by
  intro text c rest c' rest' escape escape'
  cases escape with
  | short short =>
    cases escape' with
    | short short' => exact ⟨short.unique short', rfl⟩
    | unit => cases short
    | pair => cases short
  | unit unit =>
    cases escape' with
    | short short' => cases short'
    | unit unit' =>
      obtain ⟨same, rfl⟩ := codeUnit_unique unit unit'
      exact ⟨Char.toNat_inj.1 same, rfl⟩
    | pair high' small' =>
      obtain ⟨same, -⟩ := codeUnit_unique unit high'
      have whole := not_half c
      omega
  | pair high small low small₂ value =>
    cases escape' with
    | short short' => cases short'
    | unit unit' =>
      obtain ⟨same, -⟩ := codeUnit_unique high unit'
      have whole := not_half c'
      omega
    | pair high' small' low' small₂' value' =>
      obtain ⟨same, follows⟩ := codeUnit_unique high high'
      cases follows
      obtain ⟨same₂, rfl⟩ := codeUnit_unique low low'
      have same : c.toNat = c'.toNat := by omega
      exact ⟨Char.toNat_inj.1 same, rfl⟩

/-- What stands between quotes determines the string. -/
lemma spells_unique : Determines Spells := by
  intro text cs rest cs' rest' spells spells'
  induction spells generalizing cs' with
  | close =>
    cases spells' with
    | close => exact ⟨rfl, rfl⟩
    | plain notQuote => exact absurd rfl notQuote
  | plain notQuote notBackslash _ _ ih =>
    cases spells' with
    | close => exact absurd rfl notQuote
    | plain _ _ _ more' =>
      obtain ⟨rfl, rfl⟩ := ih more'
      exact ⟨rfl, rfl⟩
    | escape => exact absurd rfl notBackslash
  | escape escape _ ih =>
    cases spells' with
    | plain _ notBackslash => exact absurd rfl notBackslash
    | escape escape' more' =>
      obtain ⟨rfl, rfl⟩ := escape_unique escape escape'
      obtain ⟨rfl, rfl⟩ := ih more'
      exact ⟨rfl, rfl⟩

/-! ### Values -/

/-- Nothing comes first that could not follow a value and its blanks. -/
def Closed (rest : List Char) : Prop :=
  ∀ c ∈ rest.head?, isClosing c

/-- Nothing more may follow a value. -/
lemma closed_nil : Closed [] := by
  intro c head
  cases head

/-- A closing character may follow a value. -/
lemma closed_cons {c : Char} (closing : isClosing c) : Closed (c :: rest) := by
  intro c head
  cases head
  exact closing

/-- What may follow a value does not begin with a blank. -/
lemma Closed.stops (closed : Closed rest) : Stops rest :=
  fun c head => not_space (closed c head)

/-- A value may end before blanks and what closes it. -/
lemma Blanks.ends (blanks : Blanks text rest) (closed : Closed rest) : Ends text := by
  cases blanks with
  | none => exact fun c head => .inr (closed c head)
  | more space =>
    intro c head
    cases head
    exact .inl space

/-- Further elements begin with a comma or with the end of the array. -/
lemma FurtherElements.closed {vs : List Value} (further : FurtherElements spells text vs rest) :
    Closed text := by
  cases further <;> exact closed_cons rfl

/-- Further members begin with a comma or with the end of the object. -/
lemma FurtherMembers.closed {members : List (String × Value)}
    (further : FurtherMembers spells text members rest) : Closed text := by
  cases further <;> exact closed_cons rfl

/-- A key is determined if its spelling is. -/
lemma key_unique (determined : Determines spells) : Determines (Key spells) := by
  intro text key rest key' rest' named named'
  cases named with
  | mk quote cs colon =>
    cases named' with
    | mk quote' cs' colon' =>
      cases quote.unique quote' (stops_cons (by decide)) (stops_cons (by decide))
      obtain ⟨rfl, rfl⟩ := determined cs cs'
      cases colon.unique colon' (stops_cons (by decide)) (stops_cons (by decide))
      exact ⟨rfl, rfl⟩

/-- A number begins with no blank and with nothing that closes a value. -/
lemma not_space_of_beginsNumber {c : Char} (begins : beginsNumber (c :: text)) :
    ¬isSpace c ∧ ¬isClosing c := by
  have numeric : isNumeric c := by
    rw [beginsNumber, Bool.or_eq_true] at begins
    rcases begins with minus | digit
    · simp [isNumeric, of_decide_eq_true minus]
    · simp [isNumeric, digit]
  exact ⟨fun space => not_numeric (.inl space) numeric,
    fun closing => not_numeric (.inr closing) numeric⟩

/-- A value begins with a character of its own. -/
lemma Writes.head (writes : Writes spells text v rest) :
    ∃ c text', text = c :: text' ∧ ¬isSpace c ∧ ¬isClosing c := by
  cases writes with
  | number number written =>
    have begins := number.begins rest
    rw [← written] at begins
    cases text with
    | nil => cases begins
    | cons c text => exact ⟨c, text, rfl, not_space_of_beginsNumber begins⟩
  | _ => exact ⟨_, _, rfl, by decide, by decide⟩

/-- A value begins with no blank. -/
lemma Writes.stops (writes : Writes spells text v rest) : Stops text := by
  obtain ⟨c, text, rfl, own, -⟩ := writes.head
  exact stops_cons own

/-- An array with an element is not at its end. -/
lemma Elements.not_ended {vs : List Value} (elements : Elements spells text vs rest) :
    ¬Blanks text (']' :: rest') := by
  intro blanks
  cases elements with
  | mk spaced =>
    cases spaced with
    | mk before writes =>
      obtain ⟨c, text', rfl, -, own⟩ := writes.head
      cases before.unique blanks writes.stops (stops_cons (by decide))
      exact own rfl

/-- An object with a member is not at its end. -/
lemma Members.not_ended {members : List (String × Value)}
    (writes : Members spells text members rest) :
    ¬Blanks text ('\x7d' :: rest') := by
  intro blanks
  cases writes with
  | mk key =>
    cases key with
    | mk quote => cases quote.unique blanks (stops_cons (by decide)) (stops_cons (by decide))

/-! What a text says that begins with a value, by its first character. -/

/-- What begins as null does is null. -/
lemma writes_null (writes : Writes spells ('n' :: text) v rest) :
    v = .null ∧ text = 'u' :: 'l' :: 'l' :: rest := by
  cases writes with
  | null => exact ⟨rfl, rfl⟩
  | number number written => cases written ▸ number.begins rest

/-- What begins as true does is true. -/
lemma writes_true (writes : Writes spells ('t' :: text) v rest) :
    v = .boolean true ∧ text = 'r' :: 'u' :: 'e' :: rest := by
  cases writes with
  | true => exact ⟨rfl, rfl⟩
  | number number written => cases written ▸ number.begins rest

/-- What begins as false does is false. -/
lemma writes_false (writes : Writes spells ('f' :: text) v rest) :
    v = .boolean false ∧ text = 'a' :: 'l' :: 's' :: 'e' :: rest := by
  cases writes with
  | false => exact ⟨rfl, rfl⟩
  | number number written => cases written ▸ number.begins rest

/-- What begins as a number does is one. -/
lemma writes_number (writes : Writes spells text v rest) (begins : beginsNumber text) :
    ∃ numeral, v = .number numeral ∧ IsNumber numeral ∧ text = numeral ++ rest := by
  cases writes with
  | number number written => exact ⟨_, rfl, number, written⟩
  | _ => cases begins

/-- What begins with quotes is a string. -/
lemma writes_string (writes : Writes spells ('"' :: text) v rest) :
    ∃ cs, v = .string (.ofList cs) ∧ spells text cs rest := by
  cases writes with
  | string cs => exact ⟨_, rfl, cs⟩
  | number number written => cases written ▸ number.begins rest

/-- What begins with a bracket is an array: the empty one, or one with elements. -/
lemma writes_array (writes : Writes spells ('[' :: text) v rest) :
    (v = .array [] ∧ Blanks text (']' :: rest)) ∨
      ∃ vs, v = .array vs ∧ Elements spells text vs rest := by
  cases writes with
  | emptyArray blanks => exact .inl ⟨rfl, blanks⟩
  | array elements => exact .inr ⟨_, rfl, elements⟩
  | number number written => cases written ▸ number.begins rest

/-- What begins with a brace is an object: the empty one, or one with members. -/
lemma writes_object (writes : Writes spells ('\x7b' :: text) v rest) :
    (v = .object [] ∧ Blanks text ('\x7d' :: rest)) ∨
      ∃ members, v = .object members ∧ Members spells text members rest := by
  cases writes with
  | emptyObject blanks => exact .inl ⟨rfl, blanks⟩
  | object members => exact .inr ⟨_, rfl, members⟩
  | number number written => cases written ▸ number.begins rest

-- The recursion is on the value; where two derivations are of the same value, the outer one counts
-- one more.
mutual

/-- A text determines the value at its beginning, by its first character. -/
theorem Writes.unique {spells} (determined : Determines spells) {text rest rest' : List Char}
    {v v' : Value} (writes : Writes spells text v rest) (writes' : Writes spells text v' rest')
    (ends : Ends rest) (ends' : Ends rest') : v = v' ∧ rest = rest' := by
  cases writes with
  | null =>
    obtain ⟨rfl, same⟩ := writes_null writes'
    cases same
    exact ⟨rfl, rfl⟩
  | true =>
    obtain ⟨rfl, same⟩ := writes_true writes'
    cases same
    exact ⟨rfl, rfl⟩
  | false =>
    obtain ⟨rfl, same⟩ := writes_false writes'
    cases same
    exact ⟨rfl, rfl⟩
  -- a number has no end of its own: it goes as far as it can
  | number number written =>
    obtain ⟨numeral, rfl, number', written'⟩ :=
      writes_number writes' (written ▸ number.begins rest)
    have same := number.eq_takeWhile ends
    rw [← written, written', ← number'.eq_takeWhile ends'] at same
    subst same
    exact ⟨rfl, List.append_cancel_left (written.symm.trans written')⟩
  | string cs =>
    obtain ⟨_, rfl, cs'⟩ := writes_string writes'
    obtain ⟨rfl, rfl⟩ := determined cs cs'
    exact ⟨rfl, rfl⟩
  -- between the brackets there are blanks or elements, but not both
  | emptyArray blanks =>
    obtain ⟨rfl, blanks'⟩ | ⟨vs, -, elements⟩ := writes_array writes'
    · cases blanks.unique blanks' (stops_cons (by decide)) (stops_cons (by decide))
      exact ⟨rfl, rfl⟩
    · exact absurd blanks elements.not_ended
  | array elements =>
    obtain ⟨-, blanks⟩ | ⟨_, rfl, elements'⟩ := writes_array writes'
    · exact absurd blanks elements.not_ended
    · obtain ⟨rfl, rfl⟩ := Elements.unique determined elements elements'
      exact ⟨rfl, rfl⟩
  | emptyObject blanks =>
    obtain ⟨rfl, blanks'⟩ | ⟨members, -, writes⟩ := writes_object writes'
    · cases blanks.unique blanks' (stops_cons (by decide)) (stops_cons (by decide))
      exact ⟨rfl, rfl⟩
    · exact absurd blanks writes.not_ended
  | object members =>
    obtain ⟨-, blanks⟩ | ⟨_, rfl, others⟩ := writes_object writes'
    · exact absurd blanks members.not_ended
    · obtain ⟨rfl, rfl⟩ := Members.unique determined members others
      exact ⟨rfl, rfl⟩
termination_by (sizeOf v, 0)

/-- A text determines the value between blanks. -/
theorem Spaced.unique {spells} (determined : Determines spells) {text rest rest' : List Char}
    {v v' : Value} (spaced : Spaced spells text v rest) (spaced' : Spaced spells text v' rest')
    (closed : Closed rest) (closed' : Closed rest') : v = v' ∧ rest = rest' := by
  cases spaced with
  | mk before writes after =>
    cases spaced' with
    | mk before' writes' after' =>
      cases before.unique before' writes.stops writes'.stops
      obtain ⟨rfl, rfl⟩ :=
        Writes.unique determined writes writes' (after.ends closed) (after'.ends closed')
      exact ⟨rfl, after.unique after' closed.stops closed'.stops⟩
termination_by (sizeOf v, 1)

/-- A text determines the elements of an array. -/
theorem Elements.unique {spells} (determined : Determines spells) {text rest rest' : List Char}
    {vs vs' : List Value} (elements : Elements spells text vs rest)
    (elements' : Elements spells text vs' rest') : vs = vs' ∧ rest = rest' := by
  cases elements with
  | mk spaced further =>
    cases elements' with
    | mk spaced' further' =>
      obtain ⟨rfl, rfl⟩ := Spaced.unique determined spaced spaced' further.closed further'.closed
      obtain ⟨rfl, rfl⟩ := FurtherElements.unique determined further further'
      exact ⟨rfl, rfl⟩
termination_by (sizeOf vs, 0)

/-- A text determines the elements that follow. -/
theorem FurtherElements.unique {spells} (determined : Determines spells)
    {text rest rest' : List Char} {vs vs' : List Value}
    (further : FurtherElements spells text vs rest)
    (further' : FurtherElements spells text vs' rest') : vs = vs' ∧ rest = rest' := by
  cases further with
  | none =>
    cases further' with
    | none => exact ⟨rfl, rfl⟩
  | some elements =>
    cases further' with
    | some elements' => exact Elements.unique determined elements elements'
termination_by (sizeOf vs, 1)

/-- A text determines the members of an object. -/
theorem Members.unique {spells} (determined : Determines spells) {text rest rest' : List Char}
    {members members' : List (String × Value)} (writes : Members spells text members rest)
    (writes' : Members spells text members' rest') : members = members' ∧ rest = rest' := by
  cases writes with
  | mk key spaced further =>
    cases writes' with
    | mk key' spaced' further' =>
      obtain ⟨rfl, rfl⟩ := key_unique determined key key'
      obtain ⟨rfl, rfl⟩ := Spaced.unique determined spaced spaced' further.closed further'.closed
      obtain ⟨rfl, rfl⟩ := FurtherMembers.unique determined further further'
      exact ⟨rfl, rfl⟩
termination_by (sizeOf members, 0)

/-- A text determines the members that follow. -/
theorem FurtherMembers.unique {spells} (determined : Determines spells)
    {text rest rest' : List Char} {members members' : List (String × Value)}
    (further : FurtherMembers spells text members rest)
    (further' : FurtherMembers spells text members' rest') :
    members = members' ∧ rest = rest' := by
  cases further with
  | none =>
    cases further' with
    | none => exact ⟨rfl, rfl⟩
  | some writes =>
    cases further' with
    | some writes' => exact Members.unique determined writes writes'
termination_by (sizeOf members, 1)

end

/-- A text has one value at most. -/
lemma IsText.unique {text : String} (determined : Determines spells) (is : IsText spells text v)
    (is' : IsText spells text v') : v = v' :=
  (Spaced.unique determined is is' closed_nil closed_nil).1

end Supervision.Json
