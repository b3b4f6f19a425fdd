import Mathlib.Data.List.Basic
import Mathlib.Data.String.Basic
import Mathlib.Tactic.SplitIfs
import Supervision.Proofs.Faults

/-!
# Settings under an environment

What the environment makes of a configuration. `Overlays` gives the three ways in which it can go,
by the raw bytes of the four variables of a prefix; `overlay_exact` holds that this is what happens,
that a second time changes nothing more, and which variables matter at all: those four, and, where
the prefix itself contains an equals sign, the one that is named by what stands before the sign.
-/

namespace Supervision

/-! ## Texts of variables -/

namespace Environment

variable {env : Environment} {name value : String}

/-- A variable is set to a text. -/
def Holds (env : Environment) (name value : String) : Prop :=
  env.bytes? name = some value.toUTF8

/-- A variable has a text if the environment holds it, and only then. -/
lemma text?_eq_some_iff : env.text? name = some value ↔ env.Holds name value := by
  have same : env.text? name = (env.bytes? name).bind String.fromUTF8? := by
    rw [text?, bytes?, Option.bind_map]
    rfl
  rw [same, Option.bind_eq_some_iff]
  constructor
  · rintro ⟨bytes, set, read⟩
    rw [String.fromUTF8?] at read
    split at read
    next valid =>
      cases read
      exact set
    next => cases read
  · intro holds
    have valid : value.toUTF8.IsValidUTF8 := value.isValidUTF8
    refine ⟨_, holds, ?_⟩
    rw [String.fromUTF8?, dif_pos valid]
    rfl

/-- A text of the environment takes the place of another text, where there is one. -/
inductive Replaces (env : Environment) (name old : String) : String → Prop where
  | held {text} :
    env.Holds name text →
    Replaces env name old text
  | kept :
    env.Lacks name →
    Replaces env name old old

/-- A text is replaced by that of its variable, or stays without one. -/
lemma replaces_iff {old new : String} :
    env.Replaces name old new ↔ new = (env.text? name).getD old := by
  cases text : env.text? name with
  | none =>
    constructor
    · intro replaces
      cases replaces with
      | held holds => cases (text?_eq_some_iff.2 holds).symm.trans text
      | kept _ => rfl
    · rintro rfl
      exact .kept (text?_eq_none_iff.1 text)
  | some value =>
    constructor
    · intro replaces
      cases replaces with
      | held holds =>
        cases (text?_eq_some_iff.2 holds).symm.trans text
        rfl
      | kept lacks => cases (text?_eq_none_iff.2 lacks).symm.trans text
    · rintro rfl
      exact .held (text?_eq_some_iff.1 text)

end Environment

namespace Config
open Text

variable {env env' : Environment} {stem value : String} {c c' : Config} {ms : Nat}
  {e? : Option OverlayError}

/-- A value writes a number of milliseconds that a setting can hold, blanks around it aside. -/
def Times (value : String) (ms : Nat) : Prop :=
  ∃ inner, Trims value.toList inner ∧ Numeral inner ms ∧ ms < settingBound

/-- A timeout is read from what writes it. -/
lemma timeout?_eq_some_iff : timeout? value = some ms ↔ Times value ms := by
  rw [timeout?, readDecimal?_eq_some_iff]
  constructor
  · exact fun numeral => ⟨_, trims_trimBlank _, numeral⟩
  · rintro ⟨inner, trims, numeral⟩
    rwa [trimBlank_eq_iff.2 trims]

/-- No timeout is read from what writes none. -/
lemma timeout?_eq_none_iff : timeout? value = none ↔ ∀ ms, ¬Times value ms := by
  rw [Option.eq_none_iff_forall_ne_some]
  exact forall_congr' fun ms => not_congr timeout?_eq_some_iff

/-- Three settings are replaced by texts, and nothing else changes but the time of a stop. -/
structure TakesTexts (env : Environment) (stem : String) (c c' : Config) : Prop where
  httpPort : env.Replaces (variableName stem "HTTP_PORT") c.http.port c'.http.port
  grpcPort : env.Replaces (variableName stem "GRPC_PORT") c.grpc.port c'.grpc.port
  logLevel : env.Replaces (variableName stem "LOG_LEVEL") c.observability.logLevel
    c'.observability.logLevel
  others : ∀ item, item ∉ [.httpPort, .grpcPort, .logLevel, .stopTime] → Item.Same c c' item

/-- What the environment makes of a configuration, and the error that it leaves. -/
inductive Overlays (env : Environment) (stem : String) (c c' : Config) :
    Option OverlayError → Prop where
  | untimed :
    TakesTexts env stem c c' →
    env.Lacks (variableName stem "SHUTDOWN_TIMEOUT_MS") →
    c'.shutdown.timeoutMs = c.shutdown.timeoutMs →
    Overlays env stem c c' none
  | timed {text} :
    TakesTexts env stem c c' →
    env.Holds (variableName stem "SHUTDOWN_TIMEOUT_MS") text →
    Times text c'.shutdown.timeoutMs →
    Overlays env stem c c' none
  | misset {text} :
    TakesTexts env stem c c' →
    env.Holds (variableName stem "SHUTDOWN_TIMEOUT_MS") text →
    (∀ ms, ¬Times text ms) →
    c'.shutdown.timeoutMs = c.shutdown.timeoutMs →
    Overlays env stem c c' (some ⟨variableName stem "SHUTDOWN_TIMEOUT_MS", text⟩)

/-- A configuration is known by its items. -/
lemma eq_of_same (same : ∀ item, Item.Same c c' item) : c = c' := by
  obtain ⟨⟨_, _, _⟩, ⟨_, _, _⟩, ⟨_⟩, ⟨_, _, _, _⟩⟩ := c
  obtain ⟨⟨_, _, _⟩, ⟨_, _, _⟩, ⟨_⟩, ⟨_, _, _, _⟩⟩ := c'
  simp only [Config.mk.injEq, HttpConfig.mk.injEq, GrpcConfig.mk.injEq, ShutdownConfig.mk.injEq,
    ObservabilityConfig.mk.injEq]
  exact ⟨⟨same .httpEnabled, same .httpPort, same .requestTime⟩,
    ⟨same .grpcEnabled, same .grpcPort, same .reflection⟩, same .stopTime,
    same .logLevel, same .logFormat, same .metricsEnabled, same .metricsAddress⟩

/-- Three settings are texts that may be replaced, and only the teardown may change besides. -/
lemma takesTexts_iff :
    TakesTexts env stem c c' ↔
      c' = { overlayTexts env.text? stem c with shutdown := c'.shutdown } := by
  constructor
  · intro takes
    refine (eq_of_same fun item => ?_).symm
    cases item with
    | httpEnabled => exact takes.others .httpEnabled (by decide)
    | httpPort => exact (Environment.replaces_iff.1 takes.httpPort).symm
    | requestTime => exact takes.others .requestTime (by decide)
    | grpcEnabled => exact takes.others .grpcEnabled (by decide)
    | grpcPort => exact (Environment.replaces_iff.1 takes.grpcPort).symm
    | reflection => exact takes.others .reflection (by decide)
    | stopTime => rfl
    | logLevel => exact (Environment.replaces_iff.1 takes.logLevel).symm
    | logFormat => exact takes.others .logFormat (by decide)
    | metricsEnabled => exact takes.others .metricsEnabled (by decide)
    | metricsAddress => exact takes.others .metricsAddress (by decide)
  · intro same
    rw [same]
    constructor
    case others =>
      intro item apart
      cases item <;> first | rfl | simp at apart
    all_goals exact Environment.replaces_iff.2 rfl

/-- The overlay is what the environment makes of the configuration. -/
lemma overlay_eq_iff : overlay env.text? stem c = (c', e?) ↔ Overlays env stem c c' e? := by
  have unchanged (kept : c'.shutdown.timeoutMs = c.shutdown.timeoutMs) :
      c'.shutdown = c.shutdown := congrArg ShutdownConfig.mk kept
  constructor
  · intro same
    cases text : env.text? (variableName stem "SHUTDOWN_TIMEOUT_MS") with
    | none =>
      simp only [overlay, text] at same
      cases same
      exact .untimed (takesTexts_iff.2 rfl) (Environment.text?_eq_none_iff.1 text) rfl
    | some value =>
      have holds := Environment.text?_eq_some_iff.1 text
      cases time : timeout? value with
      | none =>
        simp only [overlay, text, time] at same
        cases same
        exact .misset (takesTexts_iff.2 rfl) holds (timeout?_eq_none_iff.1 time) rfl
      | some ms =>
        simp only [overlay, text, time] at same
        cases same
        exact .timed (takesTexts_iff.2 rfl) holds (timeout?_eq_some_iff.1 time)
  · intro overlays
    cases overlays with
    | untimed takes lacks kept =>
      have shape := takesTexts_iff.1 takes
      rw [unchanged kept] at shape
      simp only [overlay, Environment.text?_eq_none_iff.2 lacks]
      rw [shape]
      rfl
    | timed takes holds times =>
      have shape := takesTexts_iff.1 takes
      simp only [overlay, Environment.text?_eq_some_iff.2 holds, timeout?_eq_some_iff.2 times]
      exact congrArg (·, none) shape.symm
    | misset takes holds unreadable kept =>
      have shape := takesTexts_iff.1 takes
      rw [unchanged kept] at shape
      simp only [overlay, Environment.text?_eq_some_iff.2 holds, timeout?_eq_none_iff.2 unreadable]
      rw [shape]
      rfl

/-- To replace a second time changes nothing. -/
lemma getD_getD {α : Type} (new : Option α) (old : α) : new.getD (new.getD old) = new.getD old := by
  cases new <;> rfl

/-- A second time, the environment finds its own texts. -/
lemma overlay_overlay (text? : String → Option String) (stem : String) (c : Config) :
    overlay text? stem (overlay text? stem c).1 = overlay text? stem c := by
  cases text : text? (variableName stem "SHUTDOWN_TIMEOUT_MS") with
  | none => simp only [overlay, overlayTexts, text, getD_getD]
  | some value =>
    cases time : timeout? value with
    | none => simp only [overlay, overlayTexts, text, time, getD_getD]
    | some ms => simp only [overlay, overlayTexts, text, time, getD_getD]

/-- An overlay depends on its own variables only. -/
lemma overlay_congr {read read' : String → Option String}
    (same : ∀ name ∈ variableNames stem, read name = read' name) :
    overlay read stem c = overlay read' stem c := by
  have http := same (variableName stem "HTTP_PORT") (by simp [variableNames])
  have grpc := same (variableName stem "GRPC_PORT") (by simp [variableNames])
  have level := same (variableName stem "LOG_LEVEL") (by simp [variableNames])
  have time := same (variableName stem "SHUTDOWN_TIMEOUT_MS") (by simp [variableNames])
  simp only [overlay, overlayTexts, http, grpc, level, time]

end Config

/-! ## Variables without influence -/

namespace Environment
open Config

/-- What follows the prefix in the names of its variables. -/
def suffixes : List String :=
  ["HTTP_PORT", "GRPC_PORT", "LOG_LEVEL", "SHUTDOWN_TIMEOUT_MS"]

/-- No name of a variable contains an equals sign. -/
def WellNamed (env : Environment) : Prop :=
  ∀ entry ∈ env, '=' ∉ entry.1.toList

/-- A variable that an overlay may look at: one of its four, or the one whose name with an equals
sign begins the prefix. -/
def heeds (stem name : String) : Bool :=
  (variableNames stem).contains name || (name ++ "=").toList.isPrefixOf stem.toList

/-- The loop over some bytes has those that it has taken, and those still ahead. -/
lemma toList_loop_eq (bytes : ByteArray) (i : Nat) (taken : List UInt8) :
    ByteArray.toList.loop bytes i taken = taken.reverse ++ bytes.data.toList.drop i := by
  fun_induction ByteArray.toList.loop bytes i taken with
  | case1 i taken inside ih =>
    have inside : i < bytes.data.toList.length := by simpa using inside
    rw [ih, List.drop_eq_getElem_cons inside]
    simp [ByteArray.get!, getElem!_pos bytes.data i (by simpa using inside)]
  | case2 i taken outside =>
    have outside : bytes.data.toList.length ≤ i := by simpa using outside
    rw [List.drop_eq_nil_of_le outside, List.append_nil]

/-- The list of some bytes is the list that they are made of. -/
lemma toList_eq (bytes : ByteArray) : bytes.toList = bytes.data.toList :=
  toList_loop_eq bytes 0 []

/-- The bytes of a text are those of its characters. -/
lemma toList_toUTF8 (s : String) : s.toUTF8.toList = s.toList.flatMap String.utf8EncodeChar := by
  conv => lhs; rw [← String.ofList_toList (s := s)]
  rw [toList_eq, String.toUTF8_eq_toByteArray]
  exact List.toList_data_toByteArray

/-- The byte of an equals sign is in no other character. -/
lemma mem_utf8EncodeChar {c : Char} : 61 ∈ String.utf8EncodeChar c ↔ c = '=' := by
  constructor
  · intro member
    have same : c.val.toNat = c.toNat := rfl
    have code : c.toNat = 61 := by
      unfold String.utf8EncodeChar at member
      dsimp only at member
      split_ifs at member <;>
        simp [← UInt8.toNat_inj, UInt8.toNat_ofNat'] at member <;> omega
    exact Char.toNat_inj.1 code
  · rintro rfl
    decide

/-- The byte of an equals sign is in the bytes of a text only if the sign is in the text. -/
lemma mem_flatMap_utf8 {cs : List Char} : 61 ∈ cs.flatMap String.utf8EncodeChar ↔ '=' ∈ cs := by
  simp [mem_utf8EncodeChar]

/-- What stands before a separator is determined if the separator is not in it. -/
lemma append_cons_inj {α : Type} {as bs s t : List α} {x : α} (left : x ∉ as) (right : x ∉ bs)
    (same : as ++ x :: s = bs ++ x :: t) : as = bs := by
  induction as generalizing bs with
  | nil =>
    cases bs with
    | nil => rfl
    | cons b bs =>
      obtain ⟨rfl, -⟩ := List.cons.inj same
      exact absurd List.mem_cons_self right
  | cons a as ih =>
    cases bs with
    | nil =>
      obtain ⟨rfl, -⟩ := List.cons.inj same
      exact absurd List.mem_cons_self left
    | cons b bs =>
      obtain ⟨rfl, later⟩ := List.cons.inj same
      rw [ih (fun member => left (List.mem_cons_of_mem a member))
        (fun member => right (List.mem_cons_of_mem a member)) later]

/-- The bytes of a key are those of the name, and an equals sign. -/
lemma keyBytes_eq (name : String) :
    keyBytes name = name.toList.flatMap String.utf8EncodeChar ++ [61] := by
  rw [keyBytes, toList_toUTF8, String.toList_append, List.flatMap_append]
  rfl

/-- Characters are determined by their bytes. -/
lemma flatMap_utf8_inj {cs cs' : List Char}
    (same : cs.flatMap String.utf8EncodeChar = cs'.flatMap String.utf8EncodeChar) : cs = cs' := by
  rw [← String.toList_ofList (l := cs), ← String.toList_ofList (l := cs'), ← toList_toUTF8,
    ← toList_toUTF8, toList_eq, toList_eq, Array.toList_inj] at same
  have bytes : (String.ofList cs).toByteArray = (String.ofList cs').toByteArray :=
    ByteArray.ext same
  exact String.ofList_injective (String.toByteArray_inj.1 bytes)

/-- An entry gives a value to its own name, or to a name that begins with its own and an equals
sign. -/
lemma name_of_entryValue? {name : String} {entry : String × ByteArray} {bytes : List UInt8}
    (named : '=' ∉ entry.1.toList) (given : entryValue? name entry = some bytes) :
    name = entry.1 ∨ (entry.1 ++ "=").toList <+: name.toList := by
  have entryFree : 61 ∉ entry.1.toList.flatMap String.utf8EncodeChar := mt mem_flatMap_utf8.1 named
  obtain ⟨begins, -⟩ := Option.ite_none_right_eq_some.1 given
  obtain ⟨rest, line⟩ := List.isPrefixOf_iff_prefix.1 begins
  rw [keyBytes_eq, keyBytes_eq, List.append_assoc, List.append_assoc] at line
  by_cases sign : '=' ∈ name.toList
  · obtain ⟨front, back, split, free⟩ := List.eq_append_cons_of_mem sign
    have line' : front.flatMap String.utf8EncodeChar ++
        61 :: (back.flatMap String.utf8EncodeChar ++ ([61] ++ rest)) =
          entry.1.toList.flatMap String.utf8EncodeChar ++ ([61] ++ entry.2.toList) := by
      rw [← line, split, List.flatMap_append, List.append_assoc]
      rfl
    have same := append_cons_inj (mt mem_flatMap_utf8.1 free) entryFree line'
    right
    rw [split, flatMap_utf8_inj same, String.toList_append]
    exact ⟨back, by simp⟩
  · left
    have nameFree : 61 ∉ name.toList.flatMap String.utf8EncodeChar := mt mem_flatMap_utf8.1 sign
    have same := append_cons_inj nameFree entryFree line
    exact String.toList_inj.1 (flatMap_utf8_inj same)

/-- A beginning that ends in `x` lies in the part that has an `x`. -/
lemma prefix_of_prefix_append {α : Type} {as front back : List α} {x : α} (free : x ∉ back)
    (begins : as ++ [x] <+: front ++ back) : as ++ [x] <+: front := by
  rcases List.prefix_or_prefix_of_prefix begins (List.prefix_append front back) with inside | longer
  · exact inside
  · obtain ⟨rest, whole⟩ := longer
    rcases List.eq_nil_or_concat rest with rfl | ⟨init, last, rfl⟩
    · rw [← whole, List.append_nil]
    · rw [List.concat_eq_append, ← List.append_assoc] at whole
      obtain ⟨rfl, same⟩ := List.append_inj' whole rfl
      cases same
      rw [List.append_assoc, List.prefix_append_right_inj] at begins
      exact absurd (begins.subset (by simp)) free

/-- An entry in which an overlay finds something is one that it heeds. -/
lemma heeds_of_entryValue? {stem name : String} {entry : String × ByteArray} {bytes : List UInt8}
    (named : '=' ∉ entry.1.toList) (asked : name ∈ variableNames stem)
    (given : entryValue? name entry = some bytes) : heeds stem entry.1 := by
  rw [heeds, Bool.or_eq_true, List.contains_iff_mem, List.isPrefixOf_iff_prefix]
  rcases name_of_entryValue? named given with rfl | begins
  · exact .inl asked
  · right
    obtain ⟨suffix, member, rfl⟩ := List.mem_map.1 asked
    have free : ∀ suffix ∈ suffixes, '=' ∉ ("_" ++ suffix).toList := by decide
    rw [variableName, String.append_assoc, String.toList_append, String.toList_append] at begins
    rw [String.toList_append]
    exact prefix_of_prefix_append (free suffix member) begins

/-- Nothing is found in what is filtered out if it is not there. -/
lemma findSome?_filter {α β : Type} {f : α → Option β} {p : α → Bool} {as : List α}
    (found : ∀ a ∈ as, ∀ b, f a = some b → p a) : (as.filter p).findSome? f = as.findSome? f := by
  induction as with
  | nil => rfl
  | cons a as ih =>
    have later := ih fun b member => found b (List.mem_cons_of_mem a member)
    cases here : f a with
    | some b =>
      have kept : p a := found a List.mem_cons_self b here
      simp [List.filter_cons_of_pos kept, here]
    | none =>
      rw [List.findSome?_cons, here, ← later, List.filter_cons]
      split
      · rw [List.findSome?_cons, here]
      · rfl

/-- The variables of an overlay are found in what it heeds. -/
lemma text?_filter {env : Environment} {stem name : String} (named : env.WellNamed)
    (asked : name ∈ variableNames stem) :
    Environment.text? (env.filter fun entry => heeds stem entry.1) name = env.text? name := by
  unfold text?
  rw [findSome?_filter]
  exact fun entry member bytes given => heeds_of_entryValue? (named entry member) asked given

end Environment

namespace Config
open Environment

/-- Variables of different prefixes are different. -/
lemma variableNames_disjoint {stem stem' name : String} (member : name ∈ variableNames stem)
    (member' : name ∈ variableNames stem') : stem' = stem := by
  -- No suffix ends in another one.
  have ends : ∀ s ∈ suffixes, ∀ s' ∈ suffixes,
      ("_" ++ s).toList <:+ ("_" ++ s').toList → s = s' := by decide
  obtain ⟨s, suffix, rfl⟩ := List.mem_map.1 member
  obtain ⟨s', suffix', same⟩ := List.mem_map.1 member'
  have lists : stem'.toList ++ ("_" ++ s').toList = stem.toList ++ ("_" ++ s).toList := by
    rw [← String.toList_append, ← String.toList_append, ← String.append_assoc,
      ← String.append_assoc]
    exact congrArg String.toList same
  have equal : s = s' := by
    rcases List.append_eq_append_iff.1 lists with ⟨more, -, back⟩ | ⟨more, -, back⟩
    · exact ends s suffix s' suffix' ⟨more, back.symm⟩
    · exact (ends s' suffix' s suffix ⟨more, back.symm⟩).symm
  rw [equal] at lists
  exact String.toList_inj.1 (List.append_cancel_right lists)

/-- The overlay is what the environment makes of a configuration, and a second time it makes no
difference. It looks at no variable but those that the prefix heeds: the four of the prefix, which
no other prefix has, and another one only where the prefix contains an equals sign. -/
theorem overlay_exact (env : Environment) (stem : String) (c : Config) :
    (∀ c' e?, overlay env.text? stem c = (c', e?) ↔ Overlays env stem c c' e?) ∧
      overlay env.text? stem (overlay env.text? stem c).1 = overlay env.text? stem c ∧
      (∀ ⦃env' : Environment⦄, env.WellNamed → env'.WellNamed →
        env.filter (heeds stem ·.1) = env'.filter (heeds stem ·.1) →
        overlay env.text? stem c = overlay env'.text? stem c) ∧
      (∀ name, '=' ∉ stem.toList → (heeds stem name ↔ name ∈ variableNames stem)) ∧
      ∀ stem' name, name ∈ variableNames stem → name ∈ variableNames stem' → stem' = stem := by
  refine ⟨fun c' e? => overlay_eq_iff, overlay_overlay env.text? stem c,
    fun env' named named' same => overlay_congr fun name asked => ?_, fun name free => ?_,
    fun stem' name member member' => variableNames_disjoint member member'⟩
  · rw [← text?_filter named asked, same, text?_filter named' asked]
  · rw [heeds, Bool.or_eq_true, List.contains_iff_mem, or_iff_left]
    intro begins
    have sign : '=' ∈ (name ++ "=").toList := by simp
    exact free ((List.isPrefixOf_iff_prefix.1 begins).subset sign)

/-- A prefix with an equals sign in it heeds a variable of another prefix. -/
theorem overlay_heeds_otherPrefix :
    let env : Environment := [("A_HTTP_PORT", "B_HTTP_PORT=9000".toUTF8)]
    "A_HTTP_PORT" ∈ variableNames "A" ∧ "A_HTTP_PORT" ∉ variableNames "A_HTTP_PORT=B" ∧
      (overlay env.text? "A_HTTP_PORT=B" {}).1.http.port = "9000" ∧
      (overlay (Environment.text? []) "A_HTTP_PORT=B" {}).1.http.port = ":8080" := by
  decide +kernel

/-- A level, a port that is no text, and a time that is too long by one, among variables of two
other prefixes. -/
theorem overlay_exact_mixed :
    let env : Environment :=
      [("SVC_LOG_LEVEL", "Debug".toUTF8), ("OTHER_HTTP_PORT", "1".toUTF8),
        ("SVC_GRPC_PORT", ⟨#[0x3a, 0xff]⟩),
        ("SVC_SHUTDOWN_TIMEOUT_MS", " +18446744073709551616\n".toUTF8), ("SVC", "_LOG_LEVEL".toUTF8)]
    let c' : Config := { observability := { logLevel := "Debug" } }
    let e : OverlayError := ⟨"SVC_SHUTDOWN_TIMEOUT_MS", " +18446744073709551616\n"⟩
    Overlays env "SVC" {} c' (some e) ∧ overlay env.text? "SVC" c' = (c', some e) ∧
      env.WellNamed ∧
      overlay env.text? "SVC" {} =
        overlay (Environment.text? (env.filter (heeds "SVC" ·.1))) "SVC" {} ∧
      (heeds "SVC" "SVC_GRPC_PORT" ↔ "SVC_GRPC_PORT" ∈ variableNames "SVC") ∧
      ∀ stem', "SVC_GRPC_PORT" ∈ variableNames stem' → stem' = "SVC" := by
  intro env c' e
  have result : overlay env.text? "SVC" {} = (c', some e) := by decide +kernel
  have named : ∀ entry ∈ env, '=' ∉ entry.1.toList := by decide +kernel
  have exact := overlay_exact env "SVC" {}
  refine ⟨(exact.1 _ _).1 result, ?_, named, exact.2.2.1 named ?_ ?_, exact.2.2.2.1 _ ?_,
    fun stem' => exact.2.2.2.2 stem' _ ?_⟩
  · have again := exact.2.1
    rwa [result] at again
  · exact fun entry member => named entry (List.mem_of_mem_filter member)
  · rw [List.filter_filter]
    simp
  · decide
  · decide

end Config

end Supervision
