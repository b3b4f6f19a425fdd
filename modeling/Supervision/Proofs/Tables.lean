import Mathlib.Data.List.Nodup
import Mathlib.Tactic.Lemma
import Supervision.Toml.Document

/-!
# Keys of a document

`distinct_of_read?` says that no table of a document that was read has a key twice: whatever a
statement adds to a table under construction, it adds under a key that was not there. The tables
that a value holds are built in the same way.
-/

namespace Supervision

namespace Text

variable {α : Type} {read : Reader α} {P : α → Prop}

/-- What a reader reads at most so often has the property of each reading. -/
lemma forall_atMost (each : ∀ text a rest, read text = some (a, rest) → P a) (limit : Nat)
    (text : List Char) : ∀ a ∈ (atMost limit read text).1, P a := by
  induction limit generalizing text with
  | zero => exact fun a member => absurd member List.not_mem_nil
  | succ limit ih =>
    intro a member
    cases taken : read text with
    | none =>
      simp only [atMost, taken] at member
      cases member
    | some pair =>
      obtain ⟨first, rest⟩ := pair
      simp only [atMost, taken] at member
      rcases List.mem_cons.1 member with here | later
      · rw [here]
        exact each text first rest taken
      · exact ih rest a later

/-- What a reader reads again and again has the property of each reading. -/
lemma forall_many (each : ∀ text a rest, read text = some (a, rest) → P a) (text : List Char) :
    ∀ a ∈ (many read text).1, P a :=
  forall_atMost each text.length text

end Text

namespace Toml
open Text

/-! ## Distinct keys -/

/-- No table of a value has a key twice. -/
inductive Value.Distinct : Value → Prop where
  | string {text} : Distinct (.string text)
  | integer {n} : Distinct (.integer n)
  | float {f} : Distinct (.float f)
  | boolean {b} : Distinct (.boolean b)
  | moment : Distinct .moment
  | array {elements} :
    (∀ v ∈ elements, Distinct v) →
    Distinct (.array elements)
  | table {entries} :
    (entries.map (·.1)).Nodup →
    (∀ e ∈ entries, Distinct e.2) →
    Distinct (.table entries)

/-- No table below a node has a key twice. -/
inductive Node.Distinct : Node → Prop where
  | value {v} :
    v.Distinct →
    Distinct (.value v)
  | table {origin entries} :
    (entries.map (·.1)).Nodup →
    (∀ e ∈ entries, Distinct e.2) →
    Distinct (.table origin entries)
  | tables {earlier last} :
    (∀ v ∈ earlier, v.Distinct) →
    (last.map (·.1)).Nodup →
    (∀ e ∈ last, Distinct e.2) →
    Distinct (.tables earlier last)

/-- A table under construction has no key twice, and neither has any below it. -/
structure Entries.Distinct (entries : Entries) : Prop where
  keys : (entries.map (·.1)).Nodup
  nodes : ∀ e ∈ entries, e.2.Distinct

/-- A finished table has the keys that it had. -/
lemma keys_finishEntries (entries : Entries) :
    (finishEntries entries).map (·.1) = entries.map (·.1) := by
  induction entries with
  | nil => rfl
  | cons e entries ih => simp [finishEntries, ih]

/-- The values of a finished table are its finished nodes. -/
lemma mem_finishEntries {entries : Entries} {e : String × Value}
    (member : e ∈ finishEntries entries) : ∃ e' ∈ entries, e.2 = e'.2.finish := by
  induction entries with
  | nil => cases member
  | cons e' entries ih =>
    rcases List.mem_cons.1 member with here | later
    · exact ⟨e', List.mem_cons_self, congrArg (·.2) here⟩
    · obtain ⟨e'', member, same⟩ := ih later
      exact ⟨e'', List.mem_cons_of_mem e' member, same⟩

/-- A finished node has no key twice if the node has none. By induction on how the nodes are
nested. -/
lemma Node.Distinct.finish {node : Node} (distinct : node.Distinct) : node.finish.Distinct := by
  have finished {entries : Entries} (keys : (entries.map (·.1)).Nodup)
      (ih : ∀ e ∈ entries, e.2.finish.Distinct) :
      (Value.table (finishEntries entries)).Distinct := by
    refine .table ?_ fun e member => ?_
    · rw [keys_finishEntries]
      exact keys
    · obtain ⟨e', member', same⟩ := mem_finishEntries member
      rw [same]
      exact ih e' member'
  induction distinct with
  | value distinct => exact distinct
  | table keys _ ih => exact finished keys ih
  | tables earlier keys _ ih =>
    refine .array fun v member => ?_
    rcases List.mem_append.1 member with before | current
    · exact earlier v before
    · rw [List.mem_singleton.1 current]
      exact finished keys ih

/-- A finished table has no key twice if its entries have none. -/
lemma Entries.Distinct.finish {entries : Entries} (distinct : entries.Distinct) :
    (Value.table (finishEntries entries)).Distinct :=
  have node : (Node.table .defined entries).Distinct := .table distinct.keys distinct.nodes
  node.finish

/-! ## Tables under construction -/

namespace Entries

variable {entries entries' : Entries} {key : String} {node : Node}

/-- The empty table has no key twice. -/
lemma Distinct.nil : Distinct [] :=
  ⟨List.nodup_nil, nofun⟩

/-- A node of distinct entries is distinct. -/
lemma Distinct.table {origin : Origin} (distinct : entries.Distinct) :
    (Node.table origin entries).Distinct :=
  .table distinct.keys distinct.nodes

/-- A node that is found under a key is an entry. -/
lemma get?_eq_some (found : entries.get? key = some node) : (key, node) ∈ entries := by
  obtain ⟨e, found, same⟩ := Option.map_eq_some_iff.1 found
  have here : e.1 = key := by simpa using List.find?_some found
  have member : e ∈ entries := List.mem_of_find?_eq_some found
  rw [← here, ← same]
  exact member

/-- A key under which nothing is found is no key of an entry. -/
lemma not_mem_keys (absent : entries.get? key = none) : key ∉ entries.map (·.1) := by
  intro member
  obtain ⟨e, member, same⟩ := List.mem_map.1 member
  have differs := List.find?_eq_none.1 (Option.map_eq_none_iff.1 absent) e member
  simp [same] at differs

/-- A node that is found in distinct entries is distinct. -/
lemma Distinct.get? (distinct : entries.Distinct) (found : entries.get? key = some node) :
    node.Distinct :=
  distinct.nodes _ (get?_eq_some found)

/-- Distinct entries may be followed by one with a new key. -/
lemma Distinct.snoc (distinct : entries.Distinct) (absent : key ∉ entries.map (·.1))
    (new : node.Distinct) : Distinct (entries ++ [(key, node)]) := by
  constructor
  · rw [List.map_append, List.nodup_append]
    refine ⟨distinct.keys, by simp, ?_⟩
    intro a member b last same
    rw [List.map_singleton, List.mem_singleton] at last
    rw [same, last] at member
    exact absent member
  · intro e member
    rcases List.mem_append.1 member with old | last
    · exact distinct.nodes e old
    · rw [List.mem_singleton.1 last]
      exact new

/-- The node under a key may be replaced by a distinct one. -/
lemma Distinct.replace (distinct : entries.Distinct) (new : node.Distinct) :
    Distinct (entries.replace key node) := by
  have keys : (entries.replace key node).map (·.1) = entries.map (·.1) := by
    rw [Entries.replace, List.map_map]
    refine List.map_congr_left fun e _ => ?_
    by_cases same : e.1 = key
    · simp [same]
    · simp [same]
  constructor
  · rw [keys]
    exact distinct.keys
  · intro e member
    obtain ⟨e', member', same⟩ := List.mem_map.1 member
    split at same
    · rw [← same]
      exact new
    · rw [← same]
      exact distinct.nodes e' member'

/-- An entry may be erased. -/
lemma Distinct.erase (distinct : entries.Distinct) : Distinct (entries.erase key) :=
  ⟨distinct.keys.sublist (List.filter_sublist.map _),
    fun e member => distinct.nodes e (List.mem_of_mem_filter member)⟩

/-- A key that was erased is no key any more. -/
lemma not_mem_erase : key ∉ (entries.erase key).map (·.1) := by
  intro member
  obtain ⟨e, member, same⟩ := List.mem_map.1 member
  have differs := (List.mem_filter.1 member).2
  simp [same] at differs

/-- If an edit keeps entries distinct, so does the edit at the end of a path. -/
lemma Distinct.change {byKey : Bool} {edit : Origin → Entries → Option Entries}
    (edits : ∀ origin entries entries', edit origin entries = some entries' →
      entries.Distinct → entries'.Distinct)
    {path : List String} {origin : Origin} (distinct : entries.Distinct)
    (changed : change byKey edit path origin entries = some entries') : entries'.Distinct := by
  induction path generalizing origin entries entries' with
  | nil => exact edits origin entries entries' changed distinct
  | cons key path ih =>
    cases found : entries.get? key with
    | none =>
      simp only [Entries.change, found] at changed
      obtain ⟨inner, inside, same⟩ := Option.bind_eq_some_iff.1 changed
      cases same
      exact distinct.snoc (not_mem_keys found) (ih .nil inside).table
    | some node =>
      cases node with
      -- a value is no table, so nothing below it changes
      | value v =>
        simp only [Entries.change, found] at changed
        cases changed
      -- only the last element of an array of tables is open
      | tables earlier last =>
        simp only [Entries.change, found] at changed
        obtain ⟨last', inside, same⟩ := Option.bind_eq_some_iff.1 changed
        cases same
        cases distinct.get? found with
        | tables before keys nodes =>
          have new : last'.Distinct := ih ⟨keys, nodes⟩ inside
          exact distinct.replace (.tables before new.keys new.nodes)
      | table origin inner =>
        simp only [Entries.change, found] at changed
        split at changed
        · cases changed
        · obtain ⟨inner', inside, same⟩ := Option.bind_eq_some_iff.1 changed
          cases same
          cases distinct.get? found with
          | table keys nodes => exact distinct.replace (ih ⟨keys, nodes⟩ inside).table

/-- An assignment keeps entries distinct. -/
lemma Distinct.assign {path : List String} {v : Value} (distinct : entries.Distinct)
    (new : v.Distinct) (assigned : assign path key v entries = some entries') :
    entries'.Distinct := by
  refine distinct.change (fun origin entries entries' edited distinct => ?_) assigned
  split at edited
  · cases edited
  · split at edited
    · cases edited
    next absent =>
      cases edited
      refine distinct.snoc (not_mem_keys ?_) (.value new)
      simpa using absent

/-- The header of a table keeps entries distinct. -/
lemma Distinct.openTable {path : List String} (distinct : entries.Distinct)
    (opened : openTable path key entries = some entries') : entries'.Distinct := by
  refine distinct.change (fun origin entries entries' edited distinct => ?_) opened
  split at edited
  next absent =>
    cases edited
    exact distinct.snoc (not_mem_keys absent) Distinct.nil.table
  next inner found =>
    cases edited
    cases distinct.get? found with
    | table keys nodes => exact distinct.erase.snoc not_mem_erase (.table keys nodes)
  next => cases edited

/-- The header of an element keeps entries distinct. -/
lemma Distinct.openElement {path : List String} (distinct : entries.Distinct)
    (opened : openElement path key entries = some entries') : entries'.Distinct := by
  refine distinct.change (fun origin entries entries' edited distinct => ?_) opened
  split at edited
  next absent =>
    cases edited
    exact distinct.snoc (not_mem_keys absent) (.tables nofun List.nodup_nil nofun)
  next earlier last found =>
    cases edited
    cases distinct.get? found with
    | tables before keys nodes =>
      refine distinct.replace (.tables (fun v member => ?_) List.nodup_nil nofun)
      rcases List.mem_append.1 member with old | closed
      · exact before v old
      · rw [List.mem_singleton.1 closed]
        exact finish ⟨keys, nodes⟩
  next => cases edited

/-- An assignment below a header keeps entries distinct. -/
lemma Distinct.assignIn {header path : List String} {v : Value} (distinct : entries.Distinct)
    (new : v.Distinct) (assigned : assignIn header path key v entries = some entries') :
    entries'.Distinct :=
  distinct.change (fun _ _ _ edited distinct => distinct.assign new edited) assigned

end Entries

/-! ## Values -/

/-- A reader takes values in which no table has a key twice. -/
def ReadsDistinct (read : Reader Value) : Prop :=
  ∀ text v rest, read text = some (v, rest) → v.Distinct

variable {value : Reader Value}

/-- What is read between commas has the property of each reading. -/
lemma forall_commaSeparated {α : Type} (item : Reader α) {P : α → Prop}
    (each : ∀ text a rest, item text = some (a, rest) → P a) (text : List Char) :
    ∀ a ∈ (commaSeparated item text).1, P a := by
  intro a member
  cases taken : item text with
  | none =>
    simp only [commaSeparated, taken] at member
    cases member
  | some pair =>
    obtain ⟨first, rest⟩ := pair
    simp only [commaSeparated, taken] at member
    rcases List.mem_cons.1 member with here | later
    · rw [here]
      exact each text first rest taken
    · refine forall_many (fun text a rest next => ?_) rest a later
      obtain ⟨⟨_, text'⟩, -, next⟩ := Option.bind_eq_some_iff.1 next
      exact each text' a rest next

/-- A scalar has no tables. -/
lemma readsDistinct_scalar : ReadsDistinct scalar := by
  -- what a reader of something else reads becomes a value without tables
  have mapped {α : Type} {read : Option (α × List Char)} {f : α × List Char → Value × List Char}
      (makes : ∀ a rest, (f (a, rest)).1.Distinct) {v : Value} {rest : List Char}
      (h : read.map f = some (v, rest)) : v.Distinct := by
    obtain ⟨⟨a, rest'⟩, -, same⟩ := Option.map_eq_some_iff.1 h
    have makes : (f (a, rest')).1.Distinct := makes a rest'
    rw [same] at makes
    exact makes
  intro text v rest h
  unfold scalar at h
  split at h
  · exact mapped (fun _ _ => .string) h
  · exact mapped (fun _ _ => .string) h
  · exact mapped (fun _ _ => .boolean) h
  · exact mapped (fun _ _ => .boolean) h
  · split at h
    · cases h
      exact .moment
    · split at h
      · cases h
        exact .float
      · exact mapped (fun _ _ => .integer) h

/-- An array of distinct values is distinct. -/
lemma ReadsDistinct.arrayOf (reads : ReadsDistinct value) : ReadsDistinct (arrayOf value) := by
  intro text v rest h
  obtain ⟨⟨_, text₁⟩, -, h⟩ := Option.bind_eq_some_iff.1 h
  obtain ⟨⟨_, text₂⟩, -, h⟩ := Option.bind_eq_some_iff.1 h
  cases h
  let element : Reader Value := fun text =>
    value (skipLayout text) >>= fun taken => some (taken.1, skipLayout taken.2)
  refine .array (forall_commaSeparated element (fun text v rest next => ?_) text₁)
  obtain ⟨⟨v', text'⟩, taken, same⟩ := Option.bind_eq_some_iff.1 next
  cases same
  exact reads _ v' text' taken

/-- What is assigned is a distinct value. -/
lemma ReadsDistinct.assignment (reads : ReadsDistinct value) {text rest : List Char}
    {a : Assignment} (h : assignment value text = some (a, rest)) : a.value.Distinct := by
  obtain ⟨⟨⟨path, key⟩, text₁⟩, -, h⟩ := Option.bind_eq_some_iff.1 h
  obtain ⟨⟨_, text₂⟩, -, h⟩ := Option.bind_eq_some_iff.1 h
  obtain ⟨⟨v, text₃⟩, taken, h⟩ := Option.bind_eq_some_iff.1 h
  cases h
  exact reads _ v text₃ taken

/-- Assignments one after the other keep entries distinct. -/
lemma distinct_assignAll {assignments : List Assignment} {entries entries' : Entries}
    (values : ∀ a ∈ assignments, a.value.Distinct) (distinct : entries.Distinct)
    (assigned : assignments.foldlM (fun es a => Entries.assign a.path a.key a.value es) entries =
      some entries') : entries'.Distinct := by
  induction assignments generalizing entries with
  | nil =>
    cases assigned
    exact distinct
  | cons a assignments ih =>
    obtain ⟨middle, first, assigned⟩ := Option.bind_eq_some_iff.1 assigned
    have next : middle.Distinct := distinct.assign (values a List.mem_cons_self) first
    exact ih (fun a member => values a (List.mem_cons_of_mem _ member)) next assigned

/-- An inline table is distinct, since it is made by assignments. -/
lemma ReadsDistinct.inlineTable (reads : ReadsDistinct value) :
    ReadsDistinct (inlineTable value) := by
  intro text v rest h
  obtain ⟨⟨_, text₁⟩, -, h⟩ := Option.bind_eq_some_iff.1 h
  obtain ⟨⟨_, text₂⟩, -, h⟩ := Option.bind_eq_some_iff.1 h
  obtain ⟨entries, assigned, h⟩ := Option.bind_eq_some_iff.1 h
  cases h
  have values : ∀ a ∈ (commaSeparated (Toml.assignment value) text₁).1, a.value.Distinct :=
    forall_commaSeparated _ (fun _ _ _ next => reads.assignment next) text₁
  exact (distinct_assignAll values .nil assigned).finish

/-- By induction on the depth, every value that is read is distinct. -/
lemma readsDistinct_valueTo (depth : Nat) : ReadsDistinct (valueTo depth) := by
  induction depth with
  | zero => exact readsDistinct_scalar
  -- an array or a table takes its values from one level below
  | succ depth ih =>
    intro text v rest h
    unfold valueTo at h
    split at h
    · exact ih.arrayOf _ v rest h
    · exact ih.inlineTable _ v rest h
    · exact readsDistinct_scalar _ v rest h

/-! ## Documents -/

/-- A statement gives no value in which a table has a key twice. -/
def Statement.IsDistinct : Statement → Prop
  | .assign a => a.value.Distinct
  | _ => True

/-- Every statement that is read is distinct. -/
lemma isDistinct_statement {text rest : List Char} {s : Statement}
    (h : statement text = some (s, rest)) : s.IsDistinct := by
  unfold statement at h
  split at h
  next text =>
    obtain ⟨⟨⟨path, name⟩, text₁⟩, -, h⟩ := Option.bind_eq_some_iff.1 h
    obtain ⟨⟨_, text₂⟩, -, h⟩ := Option.bind_eq_some_iff.1 h
    cases h
    trivial
  next text _ =>
    obtain ⟨⟨⟨path, name⟩, text₁⟩, -, h⟩ := Option.bind_eq_some_iff.1 h
    obtain ⟨⟨_, text₂⟩, -, h⟩ := Option.bind_eq_some_iff.1 h
    cases h
    trivial
  next =>
    obtain ⟨⟨a, text₁⟩, read, same⟩ := Option.map_eq_some_iff.1 h
    cases same
    exact (readsDistinct_valueTo _).assignment read

/-- Every statement on a line is distinct. -/
lemma isDistinct_line {text rest : List Char} {s? : Option Statement}
    (h : line text = some (s?, rest)) : ∀ s ∈ s?, s.IsDistinct := by
  have blank {read : Option (Unit × List Char)} (h : (read.map fun taken =>
      ((none : Option Statement), taken.2)) = some (s?, rest)) : ∀ s ∈ s?, s.IsDistinct := by
    obtain ⟨pair, -, same⟩ := Option.map_eq_some_iff.1 h
    cases same
    intro s member
    cases member
  unfold line at h
  dsimp only at h
  split at h
  · cases h
  · exact blank h
  · exact blank h
  · exact blank h
  · obtain ⟨⟨s, text₁⟩, stated, h⟩ := Option.bind_eq_some_iff.1 h
    obtain ⟨⟨_, text₂⟩, -, h⟩ := Option.bind_eq_some_iff.1 h
    cases h
    intro s' same
    cases same
    exact isDistinct_statement stated

/-- Every statement of a text is distinct. -/
lemma isDistinct_statements? {text : String} {statements : List Statement}
    (read : statements? text = some statements) : ∀ s ∈ statements, s.IsDistinct := by
  unfold statements? at read
  dsimp only at read
  split at read
  · cases read
    intro s member
    obtain ⟨s?, member, same⟩ := List.mem_filterMap.1 member
    have lines : ∀ s? ∈ (many line (withoutMark text.toList)).1, ∀ s ∈ s?, s.IsDistinct :=
      forall_many (fun _ _ _ h => isDistinct_line h) _
    exact lines s? member s same
  · cases read

/-- A distinct statement keeps a draft distinct. -/
lemma Draft.distinct_add {draft draft' : Draft} {s : Statement} (given : s.IsDistinct)
    (distinct : draft.entries.Distinct) (added : draft.add s = some draft') :
    draft'.entries.Distinct := by
  cases s with
  | openTable path name =>
    obtain ⟨entries, opened, same⟩ := Option.bind_eq_some_iff.1 added
    cases same
    exact distinct.openTable opened
  | openElement path name =>
    obtain ⟨entries, opened, same⟩ := Option.bind_eq_some_iff.1 added
    cases same
    exact distinct.openElement opened
  | assign a =>
    obtain ⟨entries, assigned, same⟩ := Option.bind_eq_some_iff.1 added
    cases same
    exact distinct.assignIn given assigned

/-- Distinct statements keep a draft distinct. -/
lemma Draft.distinct_addAll {statements : List Statement} {draft draft' : Draft}
    (given : ∀ s ∈ statements, s.IsDistinct) (distinct : draft.entries.Distinct)
    (added : statements.foldlM Draft.add draft = some draft') : draft'.entries.Distinct := by
  induction statements generalizing draft with
  | nil =>
    cases added
    exact distinct
  | cons s statements ih =>
    obtain ⟨middle, first, added⟩ := Option.bind_eq_some_iff.1 added
    have next : middle.entries.Distinct :=
      distinct_add (given s List.mem_cons_self) distinct first
    exact ih (fun s member => given s (List.mem_cons_of_mem _ member)) next added

/-- No table of a document has a key twice. -/
theorem distinct_of_read? {text : String} {entries : List (String × Value)}
    (read : read? text = some entries) : (Value.table entries).Distinct := by
  obtain ⟨statements, stated, read⟩ := Option.bind_eq_some_iff.1 read
  obtain ⟨draft, added, same⟩ := Option.bind_eq_some_iff.1 read
  cases same
  exact (Draft.distinct_addAll (isDistinct_statements? stated) .nil added).finish

end Toml

end Supervision
