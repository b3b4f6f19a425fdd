import Mathlib.Data.List.Forall2
import Mathlib.Tactic.Lemma
import Supervision.Http.Router
import Supervision.Proofs.Json

/-!
# Bodies about health

The body of an answer about health is a text of JSON. It has one value, and the value tells the
whole answer: whatever the names and the errors look like, none of them passes for anything else
(`respond_decodes`).
-/

namespace Supervision

/-! ## Writers -/

namespace Json

/-- How a character of a string is written. Quotes, backslashes and control characters are escaped,
the latter by a letter where there is one; every other character stands for itself. -/
inductive Escapes : Char → List Char → Prop where
  | quote : Escapes '"' ['\\', '"']
  | backslash : Escapes '\\' ['\\', '\\']
  | backspace : Escapes '\x08' ['\\', 'b']
  | formFeed : Escapes '\x0c' ['\\', 'f']
  | newline : Escapes '\n' ['\\', 'n']
  | carriageReturn : Escapes '\r' ['\\', 'r']
  | tab : Escapes '\t' ['\\', 't']
  | control {c} :
    c.toNat < 0x20 →
    c ∉ ['\x08', '\x0c', '\n', '\r', '\t'] →
    Escapes c ['\\', 'u', '0', '0', (c.toNat / 16).digitChar, (c.toNat % 16).digitChar]
  | itself {c} :
    0x20 ≤ c.toNat →
    c ≠ '"' →
    c ≠ '\\' →
    Escapes c [c]

/-- Characters are escaped where needed, to the end of their quotes. -/
inductive Spelled : List Char → List Char → List Char → Prop where
  | close {rest} :
    Spelled ('"' :: rest) [] rest
  | more {c piece text cs rest} :
    Escapes c piece →
    Spelled text cs rest →
    Spelled (piece ++ text) (c :: cs) rest

variable {spells : List Char → List Char → List Char → Prop}

/-- The digits of the writer are those of the library. -/
lemma hexDigit_eq_digitChar : ∀ d < 16, Text.hexDigit d = d.digitChar := by decide

/-- The digits of the library are read with the values they were written for. -/
lemma digitValue?_hexadecimal : ∀ d < 16, Text.digitValue? 16 d.digitChar = some d := by decide

/-- Every character is written as it is to be escaped. -/
lemma escapes_escapedChar (c : Char) : Escapes c (escapedChar c) := by
  unfold escapedChar
  split_ifs with quote backslash backspace formFeed newline carriageReturn tab control
  · exact quote ▸ .quote
  · exact backslash ▸ .backslash
  · exact backspace ▸ .backspace
  · exact formFeed ▸ .formFeed
  · exact newline ▸ .newline
  · exact carriageReturn ▸ .carriageReturn
  · exact tab ▸ .tab
  · rw [hexDigit_eq_digitChar _ (by omega), hexDigit_eq_digitChar _ (by omega)]
    exact .control control (by simp [*])
  · exact .itself (by omega) quote backslash

/-- What the writer makes of characters spells them, up to the quotes. -/
lemma spelled_flatMap (cs rest : List Char) :
    Spelled (cs.flatMap escapedChar ++ '"' :: rest) cs rest := by
  induction cs with
  | nil => exact .close
  | cons c cs ih =>
    rw [List.flatMap_cons, List.append_assoc]
    exact .more (escapes_escapedChar c) ih

/-- Four digits of a control character are read as its code unit. -/
lemma codeUnit_control {n : Nat} (control : n < 0x20) (rest : List Char) :
    CodeUnit ('0' :: '0' :: (n / 16).digitChar :: (n % 16).digitChar :: rest) n rest := by
  have value : n = Text.ofDigits 16 [0, 0, n / 16, n % 16] := by
    simp only [Text.ofDigits, List.foldl_cons, List.foldl_nil]
    omega
  have zero : Text.digitValue? 16 '0' = some 0 := rfl
  have high := digitValue?_hexadecimal (n / 16) (by omega)
  have low := digitValue?_hexadecimal (n % 16) (by omega)
  have digits : ['0', '0', (n / 16).digitChar, (n % 16).digitChar].mapM (Text.digitValue? 16) =
      some [0, 0, n / 16, n % 16] := by simp [zero, high, low]
  have unit : CodeUnit _ _ rest := .digits digits
  rwa [← value] at unit

/-- What is escaped is also permitted by the grammar. -/
lemma Escapes.permitted {c : Char} {piece text cs rest : List Char} (escapes : Escapes c piece)
    (more : Spells text cs rest) : Spells (piece ++ text) (c :: cs) rest := by
  cases escapes with
  | quote => exact .escape (.short .quote) more
  | backslash => exact .escape (.short .backslash) more
  | backspace => exact .escape (.short .backspace) more
  | formFeed => exact .escape (.short .formFeed) more
  | newline => exact .escape (.short .newline) more
  | carriageReturn => exact .escape (.short .carriageReturn) more
  | tab => exact .escape (.short .tab) more
  | control control => exact .escape (.unit (codeUnit_control control text)) more
  | itself visible notQuote notBackslash => exact .plain notQuote notBackslash visible more

/-- The grammar permits every string that is spelled so. -/
lemma Spelled.permitted {text cs rest : List Char} (spelled : Spelled text cs rest) :
    Spells text cs rest := by
  induction spelled with
  | close => exact .close
  | more escapes _ ih => exact escapes.permitted ih

/-- The writer of strings is permitted. -/
def Permits (spells : List Char → List Char → List Char → Prop) : Prop :=
  ∀ cs rest, spells (cs.flatMap escapedChar ++ '"' :: rest) cs rest

/-- A text is a value wherever it stands. -/
def Renders (spells : List Char → List Char → List Char → Prop) (text : String) (v : Value) :
    Prop :=
  ∀ rest, Writes spells (text.toList ++ rest) v rest

/-- A text is a member of an object. -/
def RendersMember (spells : List Char → List Char → List Char → Prop) (text : String)
    (m : String × Value) : Prop :=
  ∃ value, text = member m.1 value ∧ Renders spells value m.2

/-- A string is written between quotes, with its characters escaped. -/
lemma toList_string (s : String) (rest : List Char) :
    (string s).toList ++ rest = '"' :: (s.toList.flatMap escapedChar ++ '"' :: rest) := by
  simp [string]

/-- A permitted writer renders strings. -/
lemma renders_string (permits : Permits spells) (s : String) :
    Renders spells (string s) (.string s) := by
  intro rest
  have writes := Writes.string (permits s.toList rest)
  rwa [String.ofList_toList, ← toList_string] at writes

/-- What holds of texts with commas between them, by what the first one adds. -/
lemma intercalate_induction {α : Type} {R : String → α → Prop} {P : List Char → List α → Prop}
    (last : ∀ text a, R text a → P text.toList [a])
    (more : ∀ text a rest as, R text a → P rest as → P (text.toList ++ ',' :: rest) (a :: as))
    {texts : List String} {as : List α} (each : List.Forall₂ R texts as) (some : as ≠ []) :
    P (",".intercalate texts).toList as := by
  induction each with
  | nil => exact absurd rfl some
  | @cons text a texts as first others ih =>
    rw [String.toList_intercalate] at ih ⊢
    cases others with
    | nil => simpa using last text a first
    | cons second others =>
      have rest := ih (List.cons_ne_nil _ _)
      have all := more text a _ _ first rest
      rw [List.map_cons, List.map_cons, List.intercalate_cons_cons]
      simpa using all

/-- What is rendered stands for its value with whitespace around it. -/
lemma spaced_of_renders {text : String} {v : Value} (renders : Renders spells text v)
    (rest : List Char) : Spaced spells (text.toList ++ rest) v rest :=
  .mk .none (renders rest) .none

/-- If the texts render values, then the array of them renders the array. -/
lemma renders_array {texts : List String} {vs : List Value}
    (each : List.Forall₂ (Renders spells) texts vs) :
    Renders spells (array texts) (.array vs) := by
  intro rest
  rw [array, String.toList_append, String.toList_append]
  by_cases some : vs = []
  · subst some
    cases each
    exact .emptyArray .none
  · have elements : Elements spells ((",".intercalate texts).toList ++ ']' :: rest) vs rest := by
      refine intercalate_induction
        (P := fun text vs => Elements spells (text ++ ']' :: rest) vs rest) ?last ?more each some
      case last => exact fun text v renders => .mk (spaced_of_renders renders _) .none
      case more =>
        intro text v others vs renders further
        rw [List.append_assoc]
        exact .mk (spaced_of_renders renders _) (.some further)
    simpa using Writes.array elements

/-- The name of a member renders its key. -/
lemma key_member (permits : Permits spells) (name : String) (value : List Char) :
    Key spells ((string name).toList ++ ':' :: value) name value := by
  have key := Key.mk .none (permits name.toList (':' :: value)) .none
  rwa [String.ofList_toList, ← toList_string] at key

/-- A member may be put before further members. -/
lemma members_member (permits : Permits spells) {text : String} {m : String × Value}
    {members : List (String × Value)} {others rest : List Char}
    (renders : RendersMember spells text m) (further : FurtherMembers spells others members rest) :
    Members spells (text.toList ++ others) (m :: members) rest := by
  obtain ⟨value, rfl, renders⟩ := renders
  have key := key_member permits m.1 (value.toList ++ others)
  have writes := Members.mk key (spaced_of_renders renders others) further
  simpa [member] using writes

/-- If the texts render members, then the object of them renders the object. -/
lemma renders_object (permits : Permits spells) {texts : List String}
    {members : List (String × Value)}
    (each : List.Forall₂ (RendersMember spells) texts members) :
    Renders spells (object texts) (.object members) := by
  intro rest
  rw [object, String.toList_append, String.toList_append]
  by_cases some : members = []
  · subst some
    cases each
    exact .emptyObject .none
  · -- the end of the object comes after the last member
    have writes :
        Members spells ((",".intercalate texts).toList ++ '\x7d' :: rest) members rest := by
      refine intercalate_induction
        (P := fun text members => Members spells (text ++ '\x7d' :: rest) members rest)
        ?last ?more each some
      case last => exact fun text m renders => members_member permits renders .none
      case more =>
        intro text m others members renders further
        rw [List.append_assoc]
        exact members_member permits renders (.some further)
    simpa using Writes.object writes

/-- What renders a value is a text of it. -/
lemma isText_of_renders {text : String} {v : Value} (renders : Renders spells text v) :
    IsText spells text v := by
  have writes := renders []
  rw [List.append_nil] at writes
  exact .mk .none writes .none

/-- The writer may escape only what has to be escaped. -/
lemma permits_spelled : Permits Spelled := spelled_flatMap

/-- The writer keeps to the grammar of strings. -/
lemma permits_spells : Permits Spells := fun cs rest => (spelled_flatMap cs rest).permitted

/-! ## What a value tells -/

/-- The keys of an object. -/
def Value.keys : Value → List String
  | .object members => members.map Prod.fst
  | _ => []

/-- The value under a key of an object. -/
def Value.at? (key : String) : Value → Option Value
  | .object members => (members.find? (·.1 = key)).map Prod.snd
  | _ => none

end Json

open Json

/-- A value tells how a check ended: its name, and its error where it failed. -/
structure CheckResult.ToldBy (r : CheckResult) (v : Value) : Prop where
  once : v.keys.Nodup
  known : ∀ key ∈ v.keys, key = "name" ∨ key = "error"
  name : v.at? "name" = some (.string r.name)
  error : v.at? "error" = r.error.map .string

/-- What stands under the key of the results: nothing where there are none. -/
inductive ResultsToldBy : List CheckResult → Option Value → Prop where
  | none : ResultsToldBy [] none
  | some {results vs} :
    results ≠ [] →
    List.Forall₂ CheckResult.ToldBy results vs →
    ResultsToldBy results (some (.array vs))

/-- A value tells an answer. -/
structure HealthResponse.ToldBy (r : HealthResponse) (v : Value) : Prop where
  once : v.keys.Nodup
  known : ∀ key ∈ v.keys, key = "status" ∨ key = "phase" ∨ key = "results"
  status : v.at? "status" = some (.string r.status.name)
  phase : v.at? "phase" = r.phase.map fun φ => .string φ.name
  results : ResultsToldBy r.results (v.at? "results")

namespace CheckResult

variable {spells : List Char → List Char → List Char → Prop}

/-- The value of one result. -/
def value (r : CheckResult) : Value :=
  .object (("name", .string r.name) :: (r.error.map fun e => ("error", .string e)).toList)

/-- The body of one result renders its value. -/
lemma renders_body (permits : Permits spells) (r : CheckResult) :
    Renders spells r.body r.value := by
  refine renders_object permits (.cons ⟨_, rfl, renders_string permits r.name⟩ ?_)
  cases r.error with
  | none => exact .nil
  | some e => exact .cons ⟨_, rfl, renders_string permits e⟩ .nil

/-- The value of a result tells it. -/
lemma toldBy_value (r : CheckResult) : r.ToldBy r.value := by
  obtain ⟨name, error⟩ := r
  cases error with
  | none => constructor <;> simp [value, Value.keys, Value.at?]
  | some e => constructor <;> simp [value, Value.keys, Value.at?]

/-- A value tells one result at most. -/
lemma leftUnique_toldBy : Relator.LeftUnique CheckResult.ToldBy := by
  intro r r' v told told'
  obtain ⟨name, error⟩ := r
  obtain ⟨name', error'⟩ := r'
  have sameName := told.name.symm.trans told'.name
  have sameError := told.error.symm.trans told'.error
  cases sameName
  cases Option.map_injective (fun _ _ same => Value.string.inj same) sameError
  rfl

end CheckResult

/-- A value, if there is one, tells one list of results at most. -/
lemma ResultsToldBy.unique {results results' : List CheckResult} {v? : Option Value}
    (told : ResultsToldBy results v?) (told' : ResultsToldBy results' v?) : results = results' := by
  cases told with
  | none =>
    cases told' with
    | none => rfl
  | some _ each =>
    cases told' with
    | some _ each' => exact List.left_unique_forall₂' CheckResult.leftUnique_toldBy each each'

/-- Every status has a name of its own. -/
lemma HealthStatus.name_injective : HealthStatus.name.Injective := by
  intro status status' same
  cases status <;> cases status' <;> first | rfl | exact absurd same (by decide)

/-- Every phase has a name of its own. -/
lemma Phase.name_injective : Phase.name.Injective := by
  intro φ φ' same
  cases φ <;> cases φ' <;> first | rfl | exact absurd same (by decide)

namespace HealthResponse

variable {spells : List Char → List Char → List Char → Prop}

/-- The value of an answer. -/
def value (r : HealthResponse) : Value :=
  .object (("status", .string r.status.name) ::
    (r.phase.map fun φ => ("phase", .string φ.name)).toList ++
    if r.results.isEmpty then [] else [("results", .array (r.results.map CheckResult.value))])

/-- The body of an answer renders its value. -/
lemma renders_body (permits : Permits spells) (r : HealthResponse) :
    Renders spells r.body r.value := by
  refine renders_object permits (.cons ⟨_, rfl, renders_string permits r.status.name⟩ ?_)
  refine List.rel_append ?phase ?results
  case phase =>
    cases r.phase with
    | none => exact .nil
    | some φ => exact .cons ⟨_, rfl, renders_string permits φ.name⟩ .nil
  case results =>
    split
    next => exact .nil
    next =>
      refine .cons ⟨_, rfl, renders_array ?_⟩ .nil
      rw [List.forall₂_map_left_iff, List.forall₂_map_right_iff, List.forall₂_same]
      exact fun result _ => result.renders_body permits

/-- The value of an answer tells it. -/
lemma toldBy_value (r : HealthResponse) : r.ToldBy r.value := by
  obtain ⟨status, phase, results⟩ := r
  have each : List.Forall₂ CheckResult.ToldBy results (results.map CheckResult.value) := by
    rw [List.forall₂_map_right_iff, List.forall₂_same]
    exact fun result _ => result.toldBy_value
  by_cases some : results = []
  · subst some
    cases phase <;> constructor <;> simp [value, Value.keys, Value.at?, ResultsToldBy.none]
  · have told := ResultsToldBy.some some each
    cases phase <;> constructor <;> simp [value, Value.keys, Value.at?, some, told]

/-- A value tells one answer at most. -/
lemma leftUnique_toldBy : Relator.LeftUnique HealthResponse.ToldBy := by
  intro r r' v told told'
  obtain ⟨status, phase, results⟩ := r
  obtain ⟨status', phase', results'⟩ := r'
  have sameStatus := told.status.symm.trans told'.status
  have samePhase := told.phase.symm.trans told'.phase
  cases HealthStatus.name_injective (Value.string.inj (Option.some.inj sameStatus))
  cases Option.map_injective
    (fun _ _ same => Phase.name_injective (Value.string.inj same)) samePhase
  cases told.results.unique told'.results
  rfl

end HealthResponse

namespace Http

/-- The body of an answer about health has one value. The value tells the answer and no other, and
so does the body. -/
theorem respond_decodes (r : HealthResponse) :
    ∃ v, IsText Spelled (respond r).body v ∧
      (∀ u, IsText Spells (respond r).body u ↔ u = v) ∧
      (∀ r' : HealthResponse, r'.ToldBy v ↔ r' = r) ∧
      ∀ r' : HealthResponse, (respond r').body = (respond r).body ↔ r' = r := by
  -- a text has one value by the whole grammar, and the body is written in a part of it
  have one {u v : Value} {text : String} (is : IsText Spells text u) (is' : IsText Spells text v) :
      u = v := is.unique spells_unique is'
  have isText (r : HealthResponse) : IsText Spells (respond r).body r.value :=
    isText_of_renders (r.renders_body permits_spells)
  have tells (r' : HealthResponse) : r'.ToldBy r.value ↔ r' = r := by
    constructor
    · exact fun told => HealthResponse.leftUnique_toldBy told r.toldBy_value
    · rintro rfl
      exact r'.toldBy_value
  refine ⟨r.value, isText_of_renders (r.renders_body permits_spelled), ?_, tells, ?_⟩
  · intro u
    constructor
    · exact fun is => one is (isText r)
    · rintro rfl
      exact isText r
  · intro r'
    constructor
    · intro same
      have isText' := isText r'
      rw [same] at isText'
      have sameValue := one isText' (isText r)
      exact (tells r').1 (sameValue ▸ r'.toldBy_value)
    · rintro rfl
      rfl

/-- An error that looks like the end of its result and the start of another is told as it is. -/
theorem respond_decodes_lookalike :
    let r : HealthResponse :=
      ⟨.degraded, none, [⟨"db", some "\"\x7d,\x7b\"name\":\"\\\n\x01é"⟩]⟩
    (respond r).body = "\x7b\"status\":\"degraded\",\"results\":[\x7b\"name\":\"db\",\"error\":\"" ++
        "\\\"\x7d,\x7b\\\"name\\\":\\\"\\\\\\n\\u0001é\"\x7d]\x7d" ∧
      ∃ v, (∀ u, IsText Spells (respond r).body u ↔ u = v) ∧ r.ToldBy v := by
  intro r
  obtain ⟨v, -, one, tells, -⟩ := respond_decodes r
  exact ⟨by decide +kernel, v, one, (tells r).2 rfl⟩

end Http
end Supervision
