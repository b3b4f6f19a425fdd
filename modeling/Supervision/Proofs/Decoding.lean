import Mathlib.Data.List.Forall2
import Supervision.Config.Load
import Supervision.Proofs.Tables

/-!
# What a document says about a configuration

`parts` is the table of what a document may say: four sections, and the settings of each with the
type that it takes. `places` lists where a document says something of it, in the order of the
document. `ofDocument_decodes` says that the first place with a value of a wrong type is the error,
and that without one the configuration is as told: every setting that the document tells is what it
tells, and every other one is the default.

A section is read from the entries of a table one by one, and so is a configuration from the
sections of a document. `Fits.foldlM` is this reading, for both: what the fields of a shape have to
do is `Fills`, and what comes of it is `Yields`.
-/

namespace Supervision.Config
open Toml

/-! ## The table of settings -/

/-- A place of a document with what it takes and what it holds. -/
structure Place where
  wanted : Wanted
  value : Value

/-- Why a value does not fit in its place. A date or a time fits in the place of a section. -/
def Place.misfit? (place : Place) : Option Mismatch :=
  match place.wanted, place.value with
  | .string, .string _ => none
  | .boolean, .boolean _ => none
  | .unsigned, .integer n => if n < 0 then some (.negative n) else none
  | .part _, .table _ => none
  | .part _, .array _ => none
  | .part _, .moment => none
  | wanted, v => some (.wrongType v wanted)

/-- A setting of a section, and how a document would write the one that a section has. -/
structure Setting (σ : Type) where
  key : String
  wanted : Wanted
  value : σ → Value

/-- A section of a configuration with its settings in order. -/
structure Part where
  Section : Type
  name : String
  shape : Shape Section
  settings : List (Setting Section)
  get : Config → Section

/-- The section of the HTTP server. -/
def httpPart : Part where
  Section := HttpConfig
  name := "http"
  shape := httpShape
  settings := [
    ⟨"enabled", .boolean, fun s => .boolean s.enabled⟩,
    ⟨"port", .string, fun s => .string s.port⟩,
    ⟨"request_timeout_secs", .unsigned, fun s => .integer s.requestTimeoutSecs⟩]
  get := Config.http

/-- The section of the gRPC server. -/
def grpcPart : Part where
  Section := GrpcConfig
  name := "grpc"
  shape := grpcShape
  settings := [
    ⟨"enabled", .boolean, fun s => .boolean s.enabled⟩,
    ⟨"port", .string, fun s => .string s.port⟩,
    ⟨"reflection", .boolean, fun s => .boolean s.reflection⟩]
  get := Config.grpc

/-- The section of the teardown. -/
def shutdownPart : Part where
  Section := ShutdownConfig
  name := "shutdown"
  shape := shutdownShape
  settings := [⟨"timeout_ms", .unsigned, fun s => .integer s.timeoutMs⟩]
  get := Config.shutdown

/-- The section of logs and metrics. -/
def observabilityPart : Part where
  Section := ObservabilityConfig
  name := "observability"
  shape := observabilityShape
  settings := [
    ⟨"log_level", .string, fun s => .string s.logLevel⟩,
    ⟨"log_format", .string, fun s => .string s.logFormat⟩,
    ⟨"metrics_enabled", .boolean, fun s => .boolean s.metricsEnabled⟩,
    ⟨"metrics_address", .string, fun s => .string s.metricsAddress⟩]
  get := Config.observability

/-- The sections of a configuration. -/
def parts : List Part :=
  [httpPart, grpcPart, shutdownPart, observabilityPart]

namespace Part

/-- The keys of a section in order. -/
def keys (part : Part) : List String :=
  part.settings.map (·.key)

/-- The entries that a value has for a section: those of a table, or the elements of an array under
the first keys. -/
def entries (part : Part) : Value → List (String × Value)
  | .table entries => entries
  | .array elements => part.keys.zip elements
  | _ => []

/-- The place of a section and the places in it, in the order of its entries. -/
def places (part : Part) (v : Value) : List Place :=
  ⟨.part part.shape.name, v⟩ ::
    (part.entries v).filterMap fun e =>
      (part.settings.find? fun setting => setting.key = e.1).map fun setting =>
        ⟨setting.wanted, e.2⟩

end Part

/-- The places of a document, in its order. -/
def places (doc : List (String × Value)) : List Place :=
  doc.flatMap fun e => ((parts.find? fun part => part.name = e.1).map (·.places e.2)).getD []

/-- The first misfit of some places. -/
def firstMisfit? (places : List Place) : Option Mismatch :=
  places.findSome? Place.misfit?

/-- The value that a document tells for a setting. -/
def told? (doc : List (String × Value)) (part : Part) (key : String) : Option Value :=
  (doc.lookup part.name).bind fun v => (part.entries v).lookup key

/-- What has a result is this result. -/
lemma eq_ok_of_toOption {ε α : Type} {r : Except ε α} {a : α} (some : r.toOption = some a) :
    r = .ok a := by
  cases r with
  | error e => cases some
  | ok a' =>
    cases some
    rfl

/-- The first thing found is that of the head or else that of the rest. -/
lemma findSome?_cons_or {α β : Type} {f : α → Option β} {a : α} {as : List α} :
    (a :: as).findSome? f = (f a).or (as.findSome? f) := by
  rw [List.findSome?_cons]
  cases f a with
  | none => rfl
  | some b => rfl

/-- The first misfit is that of the first place or else the first of the others. -/
lemma firstMisfit?_cons (place : Place) (places : List Place) :
    firstMisfit? (place :: places) = place.misfit?.or (firstMisfit? places) :=
  findSome?_cons_or

/-- The first misfit of two lists is that of the one or else that of the other. -/
lemma firstMisfit?_append (places places' : List Place) :
    firstMisfit? (places ++ places') = (firstMisfit? places).or (firstMisfit? places') :=
  List.findSome?_append

/-! ## Reading entries -/

section
variable {α σ τ : Type} {P : σ → Prop} {misfit? : Option Mismatch} {r : Except Mismatch σ}

/-- What comes of reading: the misfit, or a result with a property. -/
inductive Yields (P : σ → Prop) : Option Mismatch → Except Mismatch σ → Prop where
  | misfit {m} :
    Yields P (some m) (.error m)
  | ok {s} :
    P s →
    Yields P none (.ok s)

/-- What reading yields may be changed afterwards. -/
lemma Yields.map {Q : τ → Prop} {f : σ → τ} (yields : Yields P misfit? r)
    (maps : ∀ s, P s → Q (f s)) : Yields Q misfit? (r.map f) := by
  cases yields with
  | misfit => exact .misfit
  | ok holds => exact .ok (maps _ holds)

/-- A weaker property is yielded as well. -/
lemma Yields.mono {Q : σ → Prop} (yields : Yields P misfit? r) (weaker : ∀ s, P s → Q s) :
    Yields Q misfit? r := by
  cases yields with
  | misfit => exact .misfit
  | ok holds => exact .ok (weaker _ holds)

/-- Reading fails with the misfit, and with nothing else. -/
lemma Yields.error_iff {m : Mismatch} (yields : Yields P misfit? r) :
    r = .error m ↔ misfit? = some m := by
  cases yields with
  | misfit => simp
  | ok => simp

/-- What is known of a field: why it refuses a value, and what holds of a section in which it was
set to some value or to none. -/
structure Slot (σ : Type) where
  key : String
  misfit? : Value → Option Mismatch
  Holds : Option Value → σ → Prop

/-- A field does what is known of it, and nothing to the others. -/
structure Fills (slots : List (Slot σ)) (field : Field σ) (slot : Slot σ) : Prop where
  key : field.key = slot.key
  sets {v} : v.Distinct → ∀ s, Yields
    (fun s' => slot.Holds (some v) s' ∧
      ∀ other ∈ slots, other.key ≠ slot.key → ∀ told, other.Holds told s → other.Holds told s')
    (slot.misfit? v) (field.set v s)

/-- The fields of a shape do what is known of them. -/
structure Fits (shape : Shape σ) (slots : List (Slot σ)) : Prop where
  fields : List.Forall₂ (Fills slots) shape.fields slots
  keys : (slots.map (·.key)).Nodup
  initially : ∀ slot ∈ slots, slot.Holds none shape.initial

/-- The first misfit of some entries. -/
def misfitIn? (slots : List (Slot σ)) (entries : List (String × Value)) : Option Mismatch :=
  entries.findSome? fun e => (slots.find? fun slot => slot.key = e.1).bind (·.misfit? e.2)

variable {shape : Shape σ} {slots : List (Slot σ)} {entries : List (String × Value)}

/-- The first misfit of some entries is that of the first one, if it has a field, or else that of
the rest. -/
lemma misfitIn?_cons (slots : List (Slot σ)) (e : String × Value) (entries) :
    misfitIn? slots (e :: entries) =
      ((slots.find? fun slot => slot.key = e.1).bind (·.misfit? e.2)).or
        (misfitIn? slots entries) :=
  findSome?_cons_or

/-- A key has no field and no slot, or it has both, and the field does what the slot says. -/
lemma find?_fields {all : List (Slot σ)} {fields : List (Field σ)}
    (fills : List.Forall₂ (Fills all) fields slots) (key : String) :
    (fields.find? fun field => field.key = key) = none ∧
        (slots.find? fun slot => slot.key = key) = none ∨
      ∃ field slot, (fields.find? fun field => field.key = key) = some field ∧
        (slots.find? fun slot => slot.key = key) = some slot ∧ Fills all field slot := by
  induction fills with
  | nil => exact .inl ⟨rfl, rfl⟩
  | @cons field slot fields slots fill _ ih =>
    by_cases here : slot.key = key
    · exact .inr ⟨field, slot, by simp [fill.key, here], by simp [here], fill⟩
    · simpa [fill.key, here] using ih

/-- An entry under another key changes nothing under this one. -/
lemma lookup_cons_of_ne {key key' : String} {v : Value} (differs : key' ≠ key) :
    ((key, v) :: entries).lookup key' = entries.lookup key' := by
  rw [List.lookup_cons, beq_eq_false_iff_ne.2 differs]

/-- Under a key that no entry has, there is nothing. -/
lemma lookup_eq_none {key : String} (absent : key ∉ entries.map (·.1)) :
    entries.lookup key = none := by
  rw [List.lookup_eq_none_iff]
  intro e member
  rw [bne_iff_ne]
  rintro rfl
  exact absent (List.mem_map_of_mem member)

/-- What is found under a key is an entry. -/
lemma mem_of_lookup {key : String} {v : Value} (told : entries.lookup key = some v) :
    (key, v) ∈ entries := by
  obtain ⟨before, after, rfl, -⟩ := List.lookup_eq_some_iff.1 told
  simp

/-- An entry is found under its key if the keys are distinct. -/
lemma lookup_of_mem {e : String × Value} (keys : (entries.map (·.1)).Nodup)
    (member : e ∈ entries) : entries.lookup e.1 = some e.2 := by
  induction entries with
  | nil => cases member
  | cons e' entries ih =>
    rw [List.map_cons, List.nodup_cons] at keys
    rcases List.mem_cons.1 member with rfl | later
    · exact List.lookup_cons_self
    · have differs : e.1 ≠ e'.1 := fun same => keys.1 (same ▸ List.mem_map_of_mem later)
      exact (lookup_cons_of_ne differs).trans (ih keys.2 later)

/-- A slot is known by its key. -/
lemma slot_unique {slot slot' : Slot σ} (keys : (slots.map (·.key)).Nodup) (member : slot ∈ slots)
    (member' : slot' ∈ slots) (same : slot.key = slot'.key) : slot = slot' :=
  List.inj_on_of_nodup_map keys member member' same

/-- Reading some entries from a section on, of which `told` holds. -/
lemma Fits.foldlM (fits : Fits shape slots) (keys : (entries.map (·.1)).Nodup)
    (values : ∀ e ∈ entries, e.2.Distinct) (told : String → Option Value) (s : σ)
    (holds : ∀ slot ∈ slots, slot.Holds (told slot.key) s) :
    Yields (fun s' => ∀ slot ∈ slots, slot.Holds ((entries.lookup slot.key).or (told slot.key)) s')
      (misfitIn? slots entries) (entries.foldlM (fun s e => shape.entry s e.1 e.2) s) := by
  induction entries generalizing told s with
  | nil => exact .ok holds
  | cons e entries ih =>
    obtain ⟨key, v⟩ := e
    rw [List.map_cons, List.nodup_cons] at keys
    have ih := ih keys.2 fun e member => values e (List.mem_cons_of_mem _ member)
    rw [List.foldlM_cons]
    rcases find?_fields fits.fields key with ⟨noField, noSlot⟩ | ⟨field, slot, field?, slot?, fill⟩
    · -- the key is not known: the section stays as it is
      have stays : shape.entry s key v = .ok s := by
        simp [Shape.entry, noField]
      have misfit : misfitIn? slots ((key, v) :: entries) = misfitIn? slots entries := by
        rw [misfitIn?_cons, noSlot]
        rfl
      rw [misfit, stays]
      refine (ih told s holds).mono fun s' holds slot member => ?_
      have differs : slot.key ≠ key := by
        simpa using List.find?_eq_none.1 noSlot slot member
      rw [lookup_cons_of_ne differs]
      exact holds slot member
    · have here : slot.key = key := by
        simpa using List.find?_some slot?
      have member : slot ∈ slots := List.mem_of_find?_eq_some slot?
      have sets : shape.entry s key v = field.set v s := by
        simp [Shape.entry, field?]
      have misfit : misfitIn? slots ((key, v) :: entries) =
          (slot.misfit? v).or (misfitIn? slots entries) := by
        rw [misfitIn?_cons, slot?]
        rfl
      rw [misfit, sets]
      have yields := fill.sets (values _ List.mem_cons_self) s
      generalize slot.misfit? v = misfit? at yields ⊢
      generalize field.set v s = r at yields ⊢
      cases yields with
      | misfit => exact .misfit
      | @ok s' set =>
        -- the value is told from here on, and no later entry has the key
        have next := ih (fun key' => if key' = key then some v else told key') s' ?_
        · refine next.mono fun s'' holds slot' member' => ?_
          by_cases same : slot'.key = key
          · have holds := holds slot' member'
            rw [same, lookup_eq_none keys.1, if_pos rfl] at holds
            rw [same, List.lookup_cons_self]
            exact holds
          · have holds := holds slot' member'
            rw [if_neg same] at holds
            rw [lookup_cons_of_ne same]
            exact holds
        · intro slot' member'
          by_cases same : slot'.key = key
          · rw [if_pos same, slot_unique fits.keys member' member (same.trans here.symm)]
            exact set.1
          · rw [if_neg same]
            refine set.2 slot' member' ?_ _ (holds slot' member')
            rw [here]
            exact same

/-- Reading a section from the entries of a table. -/
lemma Fits.ofEntries (fits : Fits shape slots) (distinct : (Value.table entries).Distinct) :
    Yields (fun s => ∀ slot ∈ slots, slot.Holds (entries.lookup slot.key) s)
      (misfitIn? slots entries) (shape.ofEntries entries) := by
  cases distinct with
  | table keys values =>
    refine (fits.foldlM keys values (fun _ => none) shape.initial fits.initially).mono ?_
    intro s holds slot member
    rw [← Option.or_none (o := entries.lookup slot.key)]
    exact holds slot member

/-- Nothing misfits if and only if no slot misfits what it is told. -/
lemma misfitIn?_eq_none_iff (slotKeys : (slots.map (·.key)).Nodup)
    (keys : (entries.map (·.1)).Nodup) :
    misfitIn? slots entries = none ↔
      ∀ slot ∈ slots, ∀ v, entries.lookup slot.key = some v → slot.misfit? v = none := by
  rw [misfitIn?, List.findSome?_eq_none_iff]
  constructor
  · intro fits slot member v told
    have fits := fits _ (mem_of_lookup told)
    cases slot? : slots.find? fun slot' => slot'.key = slot.key with
    | none =>
      have differs := List.find?_eq_none.1 slot? slot member
      simp at differs
    | some slot' =>
      have same : slot'.key = slot.key := by
        simpa using List.find?_some slot?
      rw [slot?, slot_unique slotKeys (List.mem_of_find?_eq_some slot?) member same] at fits
      exact fits
  · intro fits e member
    cases slot? : slots.find? fun slot => slot.key = e.1 with
    | none => rfl
    | some slot =>
      have here : slot.key = e.1 := by
        simpa using List.find?_some slot?
      refine fits slot (List.mem_of_find?_eq_some slot?) e.2 ?_
      rw [here]
      exact lookup_of_mem keys member

/-- Fields and slots have the same keys. -/
lemma keys_fields {all : List (Slot σ)} {fields : List (Field σ)}
    (fills : List.Forall₂ (Fills all) fields slots) :
    fields.map (·.key) = slots.map (·.key) := by
  induction fills with
  | nil => rfl
  | cons fill _ ih => simp [fill.key, ih]

/-- A field is found by its key if the keys are distinct. -/
lemma find?_field {fields : List (Field σ)} {field : Field σ}
    (keys : (fields.map (·.key)).Nodup) (member : field ∈ fields) :
    (fields.find? fun field' => field'.key = field.key) = some field := by
  induction fields with
  | nil => cases member
  | cons field' fields ih =>
    rw [List.map_cons, List.nodup_cons] at keys
    rcases List.mem_cons.1 member with rfl | later
    · simp
    · have differs : field'.key ≠ field.key := fun same => keys.1 (same ▸ List.mem_map_of_mem later)
      simpa [differs] using ih keys.2 later

/-- To set fields one by one is to read entries under their keys. -/
lemma foldlM_set (keys : (shape.fields.map (·.key)).Nodup) {values : List (Field σ × Value)}
    (known : ∀ e ∈ values, e.1 ∈ shape.fields) (s : σ) :
    values.foldlM (fun s e => e.1.set e.2 s) s =
      values.foldlM (fun s e => shape.entry s e.1.key e.2) s := by
  induction values generalizing s with
  | nil => rfl
  | cons e values ih =>
    have step : shape.entry s e.1.key e.2 = e.1.set e.2 s := by
      simp [Shape.entry, find?_field keys (known e List.mem_cons_self)]
    rw [List.foldlM_cons, List.foldlM_cons, step]
    have later : ∀ e ∈ values, e.1 ∈ shape.fields := fun e member =>
      known e (List.mem_cons_of_mem _ member)
    exact congrArg _ (funext fun s => ih later s)

/-- An array is read like the table of its elements under the keys of the shape. -/
lemma Fits.ofElements_eq (fits : Fits shape slots) (elements : List Value) :
    shape.ofElements elements = shape.ofEntries ((slots.map (·.key)).zip elements) := by
  have keys : (shape.fields.map (·.key)).Nodup := keys_fields fits.fields ▸ fits.keys
  rw [← keys_fields fits.fields, Shape.ofElements, Shape.ofEntries, List.zip_map_left,
    List.foldlM_map]
  exact foldlM_set keys (fun e member => (List.of_mem_zip member).1) shape.initial

end

/-- Elements under distinct keys are a table without repetitions. -/
lemma distinct_zip {keys : List String} {elements : List Value} (nodup : keys.Nodup)
    (values : ∀ v ∈ elements, v.Distinct) : (Value.table (keys.zip elements)).Distinct := by
  refine .table ?_ fun e member => values e.2 (List.of_mem_zip member).2
  induction keys generalizing elements with
  | nil => exact List.nodup_nil
  | cons key keys ih =>
    cases elements with
    | nil => exact List.nodup_nil
    | cons v elements =>
      rw [List.nodup_cons] at nodup
      rw [List.zip_cons_cons, List.map_cons, List.nodup_cons]
      refine ⟨fun member => ?_, ih nodup.2 fun v member => values v (List.mem_cons_of_mem _ member)⟩
      obtain ⟨e, member, same⟩ := List.mem_map.1 member
      have later : e.1 ∈ keys := (List.of_mem_zip member).1
      rw [same] at later
      exact nodup.1 later

/-! ## Settings -/

/-- What is read as a text is a text. -/
lemma yields_asString (v : Value) :
    Yields (fun text => .string text = v) (Place.misfit? ⟨.string, v⟩) (asString v) := by
  cases v with
  | string text => exact .ok rfl
  | _ => exact .misfit

/-- What is read as a truth value is one. -/
lemma yields_asBoolean (v : Value) :
    Yields (fun b => .boolean b = v) (Place.misfit? ⟨.boolean, v⟩) (asBoolean v) := by
  cases v with
  | boolean b => exact .ok rfl
  | _ => exact .misfit

/-- What is read as an unsigned number is a number. -/
lemma yields_asUnsigned (v : Value) :
    Yields (fun n : Nat => .integer n = v) (Place.misfit? ⟨.unsigned, v⟩) (asUnsigned v) := by
  cases v with
  | integer n =>
    by_cases negative : n < 0
    · simp only [Place.misfit?, asUnsigned, if_pos negative]
      exact .misfit
    · simp only [Place.misfit?, asUnsigned, if_neg negative]
      exact .ok (congrArg Value.integer (Int.toNat_of_nonneg (Int.not_lt.1 negative)))
  | _ => exact .misfit

section
variable {α σ : Type} {settings : List (Setting σ)} {initial : σ} {key : String} {wanted : Wanted}
  {value : σ → Value} {read : Value → Except Mismatch α} {put : α → σ → σ} {written : α → Value}

/-- What is known of the field of a setting. -/
def Setting.slot (initial : σ) (setting : Setting σ) : Slot σ where
  key := setting.key
  misfit? v := Place.misfit? ⟨setting.wanted, v⟩
  Holds told s := setting.value s = told.getD (setting.value initial)

/-- A field that puts what it reads where the setting finds it, and no other setting. -/
lemma fills_setting
    (reads : ∀ v, Yields (fun a => written a = v) (Place.misfit? ⟨wanted, v⟩) (read v))
    (effect : ∀ a s, value (put a s) = written a)
    (frame : settings.Forall fun other =>
      other.key = key ∨ ∀ a s, other.value (put a s) = other.value s) :
    Fills (settings.map (Setting.slot initial)) (.of key read put)
      (Setting.slot initial ⟨key, wanted, value⟩) where
  key := rfl
  sets {v} _ s := by
    refine (reads v).map fun a read => ⟨?_, fun slot member differs told holds => ?_⟩
    · show value (put a s) = v
      rw [effect, read]
    · obtain ⟨other, member', rfl⟩ := List.mem_map.1 member
      rcases List.forall_iff_forall_mem.1 frame other member' with same | frame
      · exact absurd same differs
      · show other.value (put a s) = _
        rw [frame]
        exact holds

end

/-! ## Sections -/

namespace Part

variable {part : Part} {v : Value}

/-- What is known of the fields of a section. -/
def slots (part : Part) : List (Slot part.Section) :=
  part.settings.map (Setting.slot part.shape.initial)

/-- The shape of a section has its settings, and the defaults are those of a configuration. -/
structure Lawful (part : Part) : Prop where
  fits : Fits part.shape part.slots
  initial : part.get {} = part.shape.initial

/-- The section of the HTTP server is lawful. -/
lemma lawful_http : httpPart.Lawful := by
  refine ⟨⟨.cons ?_ (.cons ?_ (.cons ?_ .nil)), by decide, by simp [slots, Setting.slot]⟩, rfl⟩
  · exact fills_setting yields_asBoolean (fun _ _ => rfl)
      ⟨.inl rfl, .inr fun _ _ => rfl, .inr fun _ _ => rfl⟩
  · exact fills_setting yields_asString (fun _ _ => rfl)
      ⟨.inr fun _ _ => rfl, .inl rfl, .inr fun _ _ => rfl⟩
  · exact fills_setting yields_asUnsigned (fun _ _ => rfl)
      ⟨.inr fun _ _ => rfl, .inr fun _ _ => rfl, .inl rfl⟩

/-- The section of the gRPC server is lawful. -/
lemma lawful_grpc : grpcPart.Lawful := by
  refine ⟨⟨.cons ?_ (.cons ?_ (.cons ?_ .nil)), by decide, by simp [slots, Setting.slot]⟩, rfl⟩
  · exact fills_setting yields_asBoolean (fun _ _ => rfl)
      ⟨.inl rfl, .inr fun _ _ => rfl, .inr fun _ _ => rfl⟩
  · exact fills_setting yields_asString (fun _ _ => rfl)
      ⟨.inr fun _ _ => rfl, .inl rfl, .inr fun _ _ => rfl⟩
  · exact fills_setting yields_asBoolean (fun _ _ => rfl)
      ⟨.inr fun _ _ => rfl, .inr fun _ _ => rfl, .inl rfl⟩

/-- The section of the teardown is lawful. -/
lemma lawful_shutdown : shutdownPart.Lawful := by
  refine ⟨⟨.cons ?_ .nil, by decide, by simp [slots, Setting.slot]⟩, rfl⟩
  exact fills_setting yields_asUnsigned (fun _ _ => rfl) (.inl rfl)

/-- The section of logs and metrics is lawful. -/
lemma lawful_observability : observabilityPart.Lawful := by
  refine ⟨⟨.cons ?_ (.cons ?_ (.cons ?_ (.cons ?_ .nil))), by decide,
    by simp [slots, Setting.slot]⟩, rfl⟩
  · exact fills_setting yields_asString (fun _ _ => rfl)
      ⟨.inl rfl, .inr fun _ _ => rfl, .inr fun _ _ => rfl, .inr fun _ _ => rfl⟩
  · exact fills_setting yields_asString (fun _ _ => rfl)
      ⟨.inr fun _ _ => rfl, .inl rfl, .inr fun _ _ => rfl, .inr fun _ _ => rfl⟩
  · exact fills_setting yields_asBoolean (fun _ _ => rfl)
      ⟨.inr fun _ _ => rfl, .inr fun _ _ => rfl, .inl rfl, .inr fun _ _ => rfl⟩
  · exact fills_setting yields_asString (fun _ _ => rfl)
      ⟨.inr fun _ _ => rfl, .inr fun _ _ => rfl, .inr fun _ _ => rfl, .inl rfl⟩

/-- All sections are lawful. -/
lemma lawful {part : Part} (member : part ∈ parts) : part.Lawful := by
  simp only [parts, List.mem_cons, List.not_mem_nil, or_false] at member
  rcases member with rfl | rfl | rfl | rfl
  · exact lawful_http
  · exact lawful_grpc
  · exact lawful_shutdown
  · exact lawful_observability

/-- The slots of a section have its keys. -/
lemma keys_slots (part : Part) : part.slots.map (·.key) = part.keys := by
  simp [slots, keys, Setting.slot]

/-- The first misfit of the places in a section is that of its entries. -/
lemma misfitIn?_slots (part : Part) (entries : List (String × Value)) :
    firstMisfit? (entries.filterMap fun e =>
      (part.settings.find? fun setting => setting.key = e.1).map fun setting =>
        ⟨setting.wanted, e.2⟩) = misfitIn? part.slots entries := by
  induction entries with
  | nil => rfl
  | cons e entries ih =>
    have slot? : (part.slots.find? fun slot => slot.key = e.1) =
        (part.settings.find? fun setting => setting.key = e.1).map
          (Setting.slot part.shape.initial) := List.find?_map
    rw [misfitIn?_cons, slot?, List.filterMap_cons]
    cases part.settings.find? fun setting => setting.key = e.1 with
    | none => exact ih
    | some setting =>
      rw [← ih]
      exact firstMisfit?_cons ⟨setting.wanted, e.2⟩ _

/-- A table is read as its section is told by it: each setting by the entry under its key, and by
the default without one. -/
lemma Lawful.decode_table (lawful : part.Lawful) {entries : List (String × Value)}
    (distinct : (Value.table entries).Distinct) :
    Yields
      (fun s => ∀ setting ∈ part.settings,
        setting.value s = (entries.lookup setting.key).getD (setting.value (part.get {})))
      (misfitIn? part.slots entries) (part.shape.ofEntries entries) := by
  refine (lawful.fits.ofEntries distinct).mono fun s holds setting member => ?_
  rw [lawful.initial]
  exact holds _ (List.mem_map_of_mem member)

/-- The entries for a section have distinct keys. -/
lemma Lawful.distinct_entries (lawful : part.Lawful) (distinct : v.Distinct) :
    (Value.table (part.entries v)).Distinct := by
  cases distinct with
  | table keys values => exact .table keys values
  | array values => exact distinct_zip (keys_slots part ▸ lawful.fits.keys) values
  | _ => exact .table List.nodup_nil nofun

/-- The first misfit of the places of a section is that of the section itself or else that of its
entries. -/
lemma firstMisfit?_places (part : Part) (v : Value) :
    firstMisfit? (part.places v) =
      (Place.misfit? ⟨.part part.shape.name, v⟩).or (misfitIn? part.slots (part.entries v)) := by
  rw [places, firstMisfit?_cons, misfitIn?_slots]

/-- An array is read as the table of its elements under the keys of the section. -/
lemma Lawful.decode_array (lawful : part.Lawful) (elements : List Value) :
    part.shape.decode (.array elements) =
      part.shape.decode (.table (part.keys.zip elements)) := by
  show part.shape.ofElements elements = part.shape.ofEntries (part.keys.zip elements)
  rw [lawful.fits.ofElements_eq, keys_slots]

/-- Reading a section. -/
lemma Lawful.decode (lawful : part.Lawful) (distinct : v.Distinct) :
    Yields
      (fun s => ∀ setting ∈ part.settings,
        setting.value s = ((part.entries v).lookup setting.key).getD (setting.value (part.get {})))
      (firstMisfit? (part.places v)) (part.shape.decode v) := by
  rw [firstMisfit?_places]
  have inside := lawful.decode_table (lawful.distinct_entries distinct)
  cases v with
  | table entries => exact inside
  | array elements =>
    rw [lawful.decode_array]
    exact inside
  | moment =>
    refine .ok fun setting _ => ?_
    rw [lawful.initial]
    rfl
  | _ => exact .misfit

end Part

/-! ## Documents -/

/-- What is known of the field of a section. -/
def Part.slot (part : Part) : Slot Config where
  key := part.name
  misfit? v := firstMisfit? (part.places v)
  Holds told c := ∀ setting ∈ part.settings,
    setting.value (part.get c) =
      (told.bind fun v => (part.entries v).lookup setting.key).getD (setting.value (part.get {}))

/-- A field that puts a section where it is found, and no other section. -/
lemma fills_part {part : Part} {put : part.Section → Config → Config} (lawful : part.Lawful)
    (effect : ∀ s c, part.get (put s c) = s)
    (frame : parts.Forall fun other =>
      other.name = part.name ∨ ∀ s c, other.get (put s c) = other.get c) :
    Fills (parts.map Part.slot) (.of part.name part.shape.decode put) part.slot where
  key := rfl
  sets {v} distinct c := by
    refine (lawful.decode distinct).map fun s decoded => ⟨fun setting member => ?_, ?_⟩
    · rw [effect]
      exact decoded setting member
    · intro slot member differs told holds
      obtain ⟨other, member', rfl⟩ := List.mem_map.1 member
      rcases List.forall_iff_forall_mem.1 frame other member' with same | frame
      · exact absurd same differs
      · intro setting member
        rw [frame]
        exact holds setting member

/-- The sections do what is known of them. -/
lemma fits_parts : Fits shape (parts.map Part.slot) := by
  refine ⟨.cons ?_ (.cons ?_ (.cons ?_ (.cons ?_ .nil))), by decide, ?_⟩
  · exact fills_part Part.lawful_http (fun _ _ => rfl)
      ⟨.inl rfl, .inr fun _ _ => rfl, .inr fun _ _ => rfl, .inr fun _ _ => rfl⟩
  · exact fills_part Part.lawful_grpc (fun _ _ => rfl)
      ⟨.inr fun _ _ => rfl, .inl rfl, .inr fun _ _ => rfl, .inr fun _ _ => rfl⟩
  · exact fills_part Part.lawful_shutdown (fun _ _ => rfl)
      ⟨.inr fun _ _ => rfl, .inr fun _ _ => rfl, .inl rfl, .inr fun _ _ => rfl⟩
  · exact fills_part Part.lawful_observability (fun _ _ => rfl)
      ⟨.inr fun _ _ => rfl, .inr fun _ _ => rfl, .inr fun _ _ => rfl, .inl rfl⟩
  · intro slot member
    obtain ⟨part, -, rfl⟩ := List.mem_map.1 member
    exact fun setting _ => rfl

variable {doc doc' : List (String × Value)} {c c' : Config}

/-- The first misfit of a document is that of its entries. -/
lemma misfitIn?_parts (doc : List (String × Value)) :
    firstMisfit? (places doc) = misfitIn? (parts.map Part.slot) doc := by
  induction doc with
  | nil => rfl
  | cons e doc ih =>
    have slot? : ((parts.map Part.slot).find? fun slot => slot.key = e.1) =
        (parts.find? fun part => part.name = e.1).map Part.slot := List.find?_map
    rw [misfitIn?_cons, slot?, places, List.flatMap_cons, firstMisfit?_append, ← ih]
    cases parts.find? fun part => part.name = e.1 with
    | none => rfl
    | some part => rfl

/-- A configuration is as a document tells: its settings are those that are told, and the others are
the defaults. -/
def AsTold (doc : List (String × Value)) (c : Config) : Prop :=
  ∀ part ∈ parts, ∀ setting ∈ part.settings,
    setting.value (part.get c) = (told? doc part setting.key).getD (setting.value (part.get {}))

/-- What comes of reading a document: its first misfit, or a configuration as it tells. -/
lemma yields_ofDocument (distinct : (Value.table doc).Distinct) :
    Yields (AsTold doc) (firstMisfit? (places doc)) (ofDocument doc) := by
  rw [misfitIn?_parts]
  refine (fits_parts.ofEntries distinct).mono fun c holds part member => ?_
  exact holds part.slot (List.mem_map_of_mem member)

/-- The settings determine the configuration. -/
lemma AsTold.unique (told : AsTold doc c) (told' : AsTold doc c') : c = c' := by
  have same : ∀ part ∈ parts, ∀ setting ∈ part.settings,
      setting.value (part.get c) = setting.value (part.get c') := fun part member setting member' =>
    (told part member setting member').trans (told' part member setting member').symm
  obtain ⟨⟨_, _, _⟩, ⟨_, _, _⟩, ⟨_⟩, ⟨_, _, _, _⟩⟩ := c
  obtain ⟨⟨_, _, _⟩, ⟨_, _, _⟩, ⟨_⟩, ⟨_, _, _, _⟩⟩ := c'
  simp only [parts, httpPart, grpcPart, shutdownPart, observabilityPart, List.mem_cons,
    List.not_mem_nil, or_false, forall_eq_or_imp, forall_eq, Value.string.injEq,
    Value.boolean.injEq, Value.integer.injEq, Int.natCast_inj] at same
  simp only [same]

/-- What a document has under the name of a section can be one. -/
def HasSections (doc : List (String × Value)) : Prop :=
  ∀ part ∈ parts, ∀ v, doc.lookup part.name = some v →
    Place.misfit? ⟨.part part.shape.name, v⟩ = none

/-- Nothing misfits if and only if every section can be one and every setting fits that is told. -/
lemma firstMisfit?_places_eq_none_iff (distinct : (Value.table doc).Distinct) :
    firstMisfit? (places doc) = none ↔
      HasSections doc ∧ ∀ part ∈ parts, ∀ setting ∈ part.settings, ∀ v,
        told? doc part setting.key = some v → Place.misfit? ⟨setting.wanted, v⟩ = none := by
  cases distinct with
  | table keys values =>
    have inside {part v} (member : part ∈ parts) (here : doc.lookup part.name = some v) :
        misfitIn? part.slots (part.entries v) = none ↔ ∀ setting ∈ part.settings, ∀ w,
          (part.entries v).lookup setting.key = some w →
          Place.misfit? ⟨setting.wanted, w⟩ = none := by
      have lawful : part.Lawful := Part.lawful member
      cases lawful.distinct_entries (values _ (mem_of_lookup here)) with
      | table keys _ =>
        rw [misfitIn?_eq_none_iff lawful.fits.keys keys]
        exact List.forall_mem_map
    rw [misfitIn?_parts, misfitIn?_eq_none_iff fits_parts.keys keys, List.forall_mem_map]
    constructor
    · intro fits
      have both {part v} (member : part ∈ parts) (here : doc.lookup part.name = some v) := by
        have fits : firstMisfit? (part.places v) = none := fits part member v here
        rw [Part.firstMisfit?_places, Option.or_eq_none_iff] at fits
        exact fits
      refine ⟨fun part member v here => (both member here).1, ?_⟩
      intro part member setting member' w told
      obtain ⟨v, here, told⟩ := Option.bind_eq_some_iff.1 told
      exact (inside member here).1 (both member here).2 setting member' w told
    · rintro ⟨sections, settings⟩ part member v here
      show firstMisfit? (part.places v) = none
      rw [Part.firstMisfit?_places, sections part member v here, Option.none_or, inside member here]
      intro setting member' w told
      refine settings part member setting member' w ?_
      rw [told?, show doc.lookup part.name = some v from here]
      exact told

/-- A document is read as a configuration if nothing in it is a misfit and the configuration is as
told. -/
lemma ofDocument_eq_ok_iff (distinct : (Value.table doc).Distinct) :
    ofDocument doc = .ok c ↔ firstMisfit? (places doc) = none ∧ AsTold doc c := by
  have yields : Yields (AsTold doc) (firstMisfit? (places doc)) (ofDocument doc) :=
    yields_ofDocument distinct
  generalize firstMisfit? (places doc) = misfit? at yields ⊢
  generalize ofDocument doc = r at yields ⊢
  cases yields with
  | misfit => simp
  | ok told =>
    constructor
    · rintro ⟨⟩
      exact ⟨rfl, told⟩
    · rintro ⟨-, told'⟩
      rw [told.unique told']

/-- What is accepted depends only on what is told. -/
lemma ofDocument_congr (distinct : (Value.table doc).Distinct)
    (distinct' : (Value.table doc').Distinct) (sections : HasSections doc')
    (same : ∀ part ∈ parts, ∀ setting ∈ part.settings,
      told? doc part setting.key = told? doc' part setting.key)
    (accepted : ofDocument doc = .ok c) : ofDocument doc' = .ok c := by
  obtain ⟨fits, told⟩ := (ofDocument_eq_ok_iff distinct).1 accepted
  refine (ofDocument_eq_ok_iff distinct').2 ⟨?_, fun part member setting member' => ?_⟩
  · refine (firstMisfit?_places_eq_none_iff distinct').2
      ⟨sections, fun part member setting member' v here => ?_⟩
    rw [← same part member setting member'] at here
    exact ((firstMisfit?_places_eq_none_iff distinct).1 fits).2 part member setting member' v here
  · rw [← same part member setting member']
    exact told part member setting member'

/-- An array in place of a section does the same as the table of its elements. -/
lemma entry_array {part : Part} (member : part ∈ parts) (c : Config) (elements : List Value) :
    shape.entry c part.name (.array elements) =
      shape.entry c part.name (.table (part.keys.zip elements)) := by
  have same := (Part.lawful member).decode_array elements
  simp only [parts, List.mem_cons, List.not_mem_nil, or_false] at member
  rcases member with rfl | rfl | rfl | rfl
  · exact congrArg (Except.map fun s => { c with http := s }) same
  · exact congrArg (Except.map fun s => { c with grpc := s }) same
  · exact congrArg (Except.map fun s => { c with shutdown := s }) same
  · exact congrArg (Except.map fun s => { c with observability := s }) same

/-- A document is read at its places, in their order. It is refused for the first misfit. Without
one the configuration is as told, and the same for any other document that tells the same, in
whatever order and whatever else it holds. An array in place of a section is the table of its
elements under the first keys. -/
theorem ofDocument_decodes :
    (∀ text doc, Toml.read? text = some doc →
      (Value.table doc).Distinct ∧ readDocument text = (ofDocument doc).mapError .mismatch) ∧
    (∀ doc, (Value.table doc).Distinct →
      (∀ c, ofDocument doc = .ok c ↔ firstMisfit? (places doc) = none ∧ AsTold doc c) ∧
      (∀ m, ofDocument doc = .error m ↔ firstMisfit? (places doc) = some m) ∧
      ∀ doc' c, (Value.table doc').Distinct → HasSections doc' →
        (∀ part ∈ parts, ∀ setting ∈ part.settings,
          told? doc part setting.key = told? doc' part setting.key) →
        ofDocument doc = .ok c → ofDocument doc' = .ok c) ∧
    ∀ part ∈ parts, ∀ before elements after,
      ofDocument (before ++ (part.name, .array elements) :: after) =
        ofDocument (before ++ (part.name, .table (part.keys.zip elements)) :: after) := by
  refine ⟨fun text doc read => ⟨distinct_of_read? read, ?_⟩, fun doc distinct => ⟨?_, ?_, ?_⟩, ?_⟩
  · rw [readDocument, read]
  · exact fun c => ofDocument_eq_ok_iff distinct
  · exact fun m => (yields_ofDocument distinct).error_iff
  · exact fun doc' c distinct' => ofDocument_congr distinct distinct'
  · intro part member before elements after
    simp only [ofDocument, Shape.ofEntries, List.foldlM_append, List.foldlM_cons,
      entry_array member]

/-- A document in order, one out of order with unknown keys and an array, and one that is refused
for the first of two misfits. -/
theorem ofDocument_decodes_disorder :
    let tidy : List (String × Value) := [
      ("http", .table [("enabled", .boolean false), ("port", .string "80")]),
      ("grpc", .table [("enabled", .boolean true), ("port", .string "9000")])]
    let untidy : List (String × Value) := [
      ("spare", .integer (-1)),
      ("grpc", .array [.boolean true, .string "9000"]),
      ("http", .table [("spare", .moment), ("port", .string "80"), ("enabled", .boolean false)])]
    let unfit : List (String × Value) := [
      ("shutdown", .table [("spare", .moment), ("timeout_ms", .integer (-5))]),
      ("http", .integer 80)]
    ∃ c, ofDocument tidy = .ok c ∧ AsTold tidy c ∧ ofDocument untidy = .ok c ∧
      ofDocument unfit = .error (.negative (-5)) := by
  intro tidy untidy unfit
  have tidyDistinct : (Value.table tidy).Distinct := by
    refine .table (by decide) (List.forall_iff_forall_mem.1 ⟨.table (by decide) ?_,
      .table (by decide) ?_⟩)
    · exact List.forall_iff_forall_mem.1 ⟨.boolean, .string⟩
    · exact List.forall_iff_forall_mem.1 ⟨.boolean, .string⟩
  have untidyDistinct : (Value.table untidy).Distinct := by
    refine .table (by decide) (List.forall_iff_forall_mem.1 ⟨.integer, .array ?_,
      .table (by decide) ?_⟩)
    · exact List.forall_iff_forall_mem.1 ⟨.boolean, .string⟩
    · exact List.forall_iff_forall_mem.1 ⟨.moment, .string, .boolean⟩
  have unfitDistinct : (Value.table unfit).Distinct := by
    refine .table (by decide) (List.forall_iff_forall_mem.1 ⟨.table (by decide) ?_, .integer⟩)
    exact List.forall_iff_forall_mem.1 ⟨.moment, .integer⟩
  let c : Config :=
    { http := { enabled := false, port := "80" }, grpc := { enabled := true, port := "9000" } }
  have accepted : ofDocument tidy = .ok c := rfl
  refine ⟨c, accepted, (((ofDocument_decodes.2.1 tidy tidyDistinct).1 c).1 accepted).2,
    (ofDocument_decodes.2.1 tidy tidyDistinct).2.2 untidy c untidyDistinct ?_ ?_ accepted,
    ((ofDocument_decodes.2.1 unfit unfitDistinct).2.1 _).2 rfl⟩
  · refine List.forall_iff_forall_mem.1 ⟨?_, ?_, ?_, ?_⟩
    · rintro v ⟨⟩
      rfl
    · rintro v ⟨⟩
      rfl
    · rintro v ⟨⟩
    · rintro v ⟨⟩
  · refine List.forall_iff_forall_mem.1 ⟨?_, ?_, ?_, ?_⟩
    · exact List.forall_iff_forall_mem.1 ⟨rfl, rfl, rfl⟩
    · exact List.forall_iff_forall_mem.1 ⟨rfl, rfl, rfl⟩
    · exact List.forall_iff_forall_mem.1 rfl
    · exact List.forall_iff_forall_mem.1 ⟨rfl, rfl, rfl, rfl⟩

/-- A date in place of a section is accepted, though it is neither a table nor an array. -/
theorem ofDocument_moment :
    ∃ v, (∀ entries, v ≠ .table entries) ∧ (∀ elements, v ≠ .array elements) ∧
      (Value.table [("http", v)]).Distinct ∧ ofDocument [("http", v)] = .ok {} ∧
      readDocument "http = 1979-05-27" = .ok {} := by
  refine ⟨.moment, nofun, nofun, .table (by decide) ?_, rfl, ?_⟩
  · simp only [List.forall_mem_cons]
    exact ⟨.moment, nofun⟩
  · exact eq_ok_of_toOption (by decide +kernel)

end Supervision.Config
