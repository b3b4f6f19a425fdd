import Supervision.Proofs.Loading
import Supervision.Proofs.Numerals
import Supervision.Proofs.Ports

/-!
# Broken rules

Which rules a configuration breaks. `Breach` gives each rule on its own, without the order in which
the rules are tried and without what the others find; `faults_exact` says that validation reports
exactly these breaches, each once and in the order of the rules. A fault depends on the items of its
rule alone (`filter_faults_congr`), so that a correction elsewhere neither hides nor adds nor alters
it.
-/

namespace Supervision

/-! ## Port specs -/

namespace Net
open Text

/-- A text names a port: by what follows its last colon, or as a whole where it has none. -/
inductive NamesPort : List Char → Nat → Prop where
  | bare {text port} :
    ':' ∉ text →
    Numeral text port →
    port < portBound →
    NamesPort text port
  | last {before digits port} :
    ':' ∉ digits →
    Numeral digits port →
    port < portBound →
    NamesPort (before ++ ':' :: digits) port

/-- What a port spec asks for. An empty one asks for the fallback. -/
inductive SpecAsks (fallback : Nat) : String → Nat → Prop where
  | empty :
    SpecAsks fallback "" fallback
  | named {spec port} :
    NamesPort spec.toList port →
    SpecAsks fallback spec port

/-- What is split is split at its last separator. -/
lemma eq_of_splitLast? {sep : Char} {text before after : List Char}
    (split : splitLast? sep text = some (before, after)) :
    text = before ++ sep :: after ∧ sep ∉ after := by
  induction text generalizing before with
  | nil => cases split
  | cons c rest ih =>
    rw [splitLast?] at split
    cases later : splitLast? sep rest with
    | some parts =>
      rw [later] at split
      cases split
      obtain ⟨rfl, last⟩ := ih later
      exact ⟨rfl, last⟩
    | none =>
      rw [later] at split
      obtain ⟨rfl, same⟩ := Option.ite_none_right_eq_some.1 split
      cases same
      exact ⟨rfl, not_mem_of_splitLast? later⟩

/-- Without a separator, nothing is split. -/
lemma splitLast?_of_not_mem {sep : Char} {text : List Char} (none : sep ∉ text) :
    splitLast? sep text = .none := by
  cases split : splitLast? sep text with
  | none => rfl
  | some parts =>
    obtain ⟨rfl, -⟩ := eq_of_splitLast? split
    simp at none

/-- The port of a text is the one that it names. -/
lemma specPort?_eq_some_iff {text : String} {port : Nat} :
    specPort? text = some port ↔ NamesPort text.toList port := by
  unfold specPort?
  constructor
  · intro read
    cases split : splitLast? ':' text.toList with
    | none =>
      rw [split] at read
      obtain ⟨numeral, small⟩ := readDecimal?_eq_some_iff.1 read
      exact .bare (not_mem_of_splitLast? split) numeral small
    | some parts =>
      rw [split] at read
      obtain ⟨numeral, small⟩ := readDecimal?_eq_some_iff.1 read
      obtain ⟨same, last⟩ := eq_of_splitLast? split
      rw [same]
      exact .last last numeral small
  · intro names
    generalize text.toList = chars at names
    cases names with
    | bare none numeral small =>
      rw [splitLast?_of_not_mem none]
      exact readDecimal?_eq_some_iff.2 ⟨numeral, small⟩
    | last last numeral small =>
      rw [splitLast?_append _ last]
      exact readDecimal?_eq_some_iff.2 ⟨numeral, small⟩

/-- The empty text names no port. -/
lemma not_namesPort_nil {port : Nat} : ¬NamesPort [] port := by
  intro names
  generalize empty : ([] : List Char) = text at names
  cases names with
  | bare _ numeral _ =>
    cases numeral with
    | plain digits => exact (digits_iff.1 digits).1 empty.symm
    | signed _ => cases empty
  | last => simp at empty

/-- A colon in front of a text without one does not change its port. -/
lemma namesPort_colon {text : List Char} {port : Nat} (none : ':' ∉ text) :
    NamesPort (':' :: text) port ↔ NamesPort text port := by
  constructor
  · intro names
    generalize whole : ':' :: text = chars at names
    cases names with
    | bare none' _ _ => simp [← whole] at none'
    | @last before digits _ last numeral small =>
      cases before with
      | nil =>
        cases whole
        exact .bare none numeral small
      | cons c before =>
        cases whole
        simp at none
  · intro names
    cases names with
    | bare none numeral small =>
      have last : NamesPort ([] ++ ':' :: text) port := .last none numeral small
      exact last
    | last => simp at none

/-- A spec that is not empty names its port in normal form as well. -/
lemma namesPort_normalizePort {spec fallback : String} {port : Nat} (some : spec ≠ "") :
    NamesPort (normalizePort spec fallback).toList port ↔ NamesPort spec.toList port := by
  have filled : spec.isEmpty = false := by simpa using some
  simp only [normalizePort, filled, Bool.false_eq_true, if_false]
  split
  next => rfl
  next bare =>
    have none : ':' ∉ spec.toList := by simpa using bare
    rw [String.toList_append]
    exact namesPort_colon none

/-- What is read of a spec is what it asks for. -/
lemma specPort?_normalizePort {spec fallback : String} {given port : Nat}
    (default : specPort? (normalizePort "" fallback) = some given) :
    specPort? (normalizePort spec fallback) = some port ↔ SpecAsks given spec port := by
  by_cases empty : spec = ""
  · subst empty
    rw [default]
    constructor
    · rintro ⟨⟩
      exact .empty
    · intro asks
      cases asks with
      | empty => rfl
      | named names => exact absurd names not_namesPort_nil
  · rw [specPort?_eq_some_iff, namesPort_normalizePort empty]
    constructor
    · exact .named
    · intro asks
      cases asks with
      | empty => exact absurd rfl empty
      | named names => exact names

end Net

namespace Config
open Net

variable {c c' : Config} {fault : Fault}

/-! ## Rules and items -/

/-- A rule of a configuration. -/
inductive Rule where
  | httpPort
  | grpcPort
  | sharedPort
  | requestTime
  | stopTime
  | logLevel
  | logFormat
  | metricsAddress
deriving DecidableEq, Repr

/-- The rules in the order of their faults. -/
def Rule.all : List Rule :=
  [.httpPort, .grpcPort, .sharedPort, .requestTime, .stopTime, .logLevel, .logFormat,
    .metricsAddress]

/-- The rule that a fault breaks. -/
def Fault.rule : Fault → Rule
  | .httpPort _ => .httpPort
  | .grpcPort _ => .grpcPort
  | .sharedPort _ => .sharedPort
  | .noRequestTime => .requestTime
  | .noStopTime => .stopTime
  | .logLevel _ => .logLevel
  | .logFormat _ => .logFormat
  | .metricsAddress _ => .metricsAddress

/-- An item of a configuration. -/
inductive Item where
  | httpEnabled
  | httpPort
  | requestTime
  | grpcEnabled
  | grpcPort
  | reflection
  | stopTime
  | logLevel
  | logFormat
  | metricsEnabled
  | metricsAddress
deriving DecidableEq, Repr

/-- The path of an item. -/
def Item.path : Item → String
  | .httpEnabled => "http.enabled"
  | .httpPort => "http.port"
  | .requestTime => "http.request_timeout_secs"
  | .grpcEnabled => "grpc.enabled"
  | .grpcPort => "grpc.port"
  | .reflection => "grpc.reflection"
  | .stopTime => "shutdown.timeout_ms"
  | .logLevel => "observability.log_level"
  | .logFormat => "observability.log_format"
  | .metricsEnabled => "observability.metrics_enabled"
  | .metricsAddress => "observability.metrics_address"

/-- Two configurations have an item in common. -/
def Item.Same (c c' : Config) : Item → Prop
  | .httpEnabled => c.http.enabled = c'.http.enabled
  | .httpPort => c.http.port = c'.http.port
  | .requestTime => c.http.requestTimeoutSecs = c'.http.requestTimeoutSecs
  | .grpcEnabled => c.grpc.enabled = c'.grpc.enabled
  | .grpcPort => c.grpc.port = c'.grpc.port
  | .reflection => c.grpc.reflection = c'.grpc.reflection
  | .stopTime => c.shutdown.timeoutMs = c'.shutdown.timeoutMs
  | .logLevel => c.observability.logLevel = c'.observability.logLevel
  | .logFormat => c.observability.logFormat = c'.observability.logFormat
  | .metricsEnabled => c.observability.metricsEnabled = c'.observability.metricsEnabled
  | .metricsAddress => c.observability.metricsAddress = c'.observability.metricsAddress

/-- The items that a rule is about, first the one to which its fault points. -/
def Rule.items : Rule → List Item
  | .httpPort => [.httpPort]
  | .grpcPort => [.grpcPort]
  | .sharedPort => [.grpcPort, .httpPort, .grpcEnabled, .httpEnabled]
  | .requestTime => [.requestTime]
  | .stopTime => [.stopTime]
  | .logLevel => [.logLevel]
  | .logFormat => [.logFormat]
  | .metricsAddress => [.metricsAddress, .metricsEnabled]

/-- Two characters are the same, or the two cases of one letter of ASCII. -/
inductive SameLetter : Char → Char → Prop where
  | refl {a} :
    SameLetter a a
  | upper {a b} :
    'A' ≤ a →
    a ≤ 'Z' →
    b.toNat = a.toNat + 32 →
    SameLetter a b
  | lower {a b} :
    'A' ≤ b →
    b ≤ 'Z' →
    a.toNat = b.toNat + 32 →
    SameLetter a b

/-- A level is one of the five, up to the case of its letters. -/
def IsLevel (level : String) : Prop :=
  ∃ name ∈ levelNames, List.Forall₂ SameLetter level.toList name.toList

/-- How a configuration breaks a rule, with the fault that tells of it. -/
inductive Breach (c : Config) : Fault → Prop where
  | httpPort :
    (∀ port, ¬SpecAsks 8080 c.http.port port) →
    Breach c (.httpPort c.http.port)
  | grpcPort :
    (∀ port, ¬SpecAsks 50051 c.grpc.port port) →
    Breach c (.grpcPort c.grpc.port)
  | sharedPort {port} :
    c.http.enabled →
    c.grpc.enabled →
    SpecAsks 8080 c.http.port port →
    SpecAsks 50051 c.grpc.port port →
    port ≠ 0 →
    Breach c (.sharedPort port)
  | requestTime :
    c.http.requestTimeoutSecs = 0 →
    Breach c .noRequestTime
  | stopTime :
    c.shutdown.timeoutMs = 0 →
    Breach c .noStopTime
  | logLevel :
    ¬IsLevel c.observability.logLevel →
    Breach c (.logLevel c.observability.logLevel)
  | logFormat :
    c.observability.logFormat ≠ "pretty" →
    c.observability.logFormat ≠ "json" →
    Breach c (.logFormat c.observability.logFormat)
  | metricsAddress :
    c.observability.metricsEnabled →
    SocketAddress.ofString? c.observability.metricsAddress = none →
    Breach c (.metricsAddress c.observability.metricsAddress)

/-! ## One rule at a time -/

/-- The fault of a rule, where it is broken. -/
def Rule.fault? (c : Config) : Rule → Option Fault
  | .httpPort => if (httpPort? c).isNone then some (.httpPort c.http.port) else none
  | .grpcPort => if (grpcPort? c).isNone then some (.grpcPort c.grpc.port) else none
  | .sharedPort => (sharedPort? c).map .sharedPort
  | .requestTime => if c.http.requestTimeoutSecs = 0 then some .noRequestTime else none
  | .stopTime => if c.shutdown.timeoutMs = 0 then some .noStopTime else none
  | .logLevel =>
    if c.observability.logLevel.toLower ∉ levelNames then
      some (.logLevel c.observability.logLevel) else none
  | .logFormat =>
    if c.observability.logFormat ∉ formatNames then
      some (.logFormat c.observability.logFormat) else none
  | .metricsAddress =>
    if c.observability.metricsEnabled ∧
        SocketAddress.ofString? c.observability.metricsAddress = none then
      some (.metricsAddress c.observability.metricsAddress) else none

/-- There is at most this one fault, and only if the rule is broken. -/
lemma faultIf_eq (broken : Bool) (fault : Fault) :
    faultIf broken fault = (if broken then some fault else none).toList := by
  cases broken <;> rfl

/-- What is kept of a list is kept of its head and of its rest. -/
lemma filterMap_cons_toList {α β : Type} (f : α → Option β) (a : α) (as : List α) :
    (a :: as).filterMap f = (f a).toList ++ as.filterMap f := by
  rw [List.filterMap_cons]
  cases f a <;> rfl

/-- The faults are those of the rules, one after the other. -/
lemma faults_eq (c : Config) : faults c = Rule.all.filterMap (·.fault? c) := by
  simp only [faults, faultIf_eq, Rule.all, filterMap_cons_toList, List.filterMap_nil,
    List.append_nil, List.append_assoc, Rule.fault?]
  simp

/-- The fault of a rule belongs to it. -/
lemma rule_of_fault? {rule : Rule} (broken : rule.fault? c = some fault) : fault.rule = rule := by
  cases rule <;>
    simp only [Rule.fault?, Option.ite_none_right_eq_some, Option.map_eq_some_iff] at broken
  case sharedPort =>
    obtain ⟨port, -, rfl⟩ := broken
    rfl
  all_goals
    obtain ⟨-, same⟩ := broken
    cases same
    rfl

/-- A rule looks at its items alone. -/
lemma fault?_congr {rule : Rule} (same : ∀ item ∈ rule.items, item.Same c c') :
    rule.fault? c = rule.fault? c' := by
  cases rule <;> simp [Rule.items, Item.Same] at same <;>
    simp [Rule.fault?, httpPort?, grpcPort?, sharedPort?, same]

/-! ## Each rule says what it should -/

/-- The port of the HTTP server is the one that its spec asks for, or else 8080. -/
lemma httpPort?_eq_some_iff {port : Nat} :
    httpPort? c = some port ↔ SpecAsks 8080 c.http.port port :=
  specPort?_normalizePort (by decide +kernel)

/-- The port of the gRPC server is the one that its spec asks for, or else 50051. -/
lemma grpcPort?_eq_some_iff {port : Nat} :
    grpcPort? c = some port ↔ SpecAsks 50051 c.grpc.port port :=
  specPort?_normalizePort (by decide +kernel)

/-- A port is shared if both servers are enabled and ask for it, unless it is zero. -/
lemma sharedPort?_eq_some_iff {port : Nat} :
    sharedPort? c = some port ↔ c.http.enabled ∧ c.grpc.enabled ∧ httpPort? c = some port ∧
      grpcPort? c = some port ∧ port ≠ 0 := by
  rw [sharedPort?, Option.ite_none_right_eq_some, Bool.and_eq_true, and_assoc]
  refine and_congr_right fun _ => and_congr_right fun _ => ?_
  cases httpPort? c with
  | none => simp
  | some http =>
    cases grpcPort? c with
    | none => simp
    | some grpc =>
      simp only [Option.ite_none_right_eq_some, Bool.and_eq_true, decide_eq_true_iff,
        Option.some.injEq]
      constructor
      · rintro ⟨⟨rfl, nonzero⟩, rfl⟩
        exact ⟨rfl, rfl, nonzero⟩
      · rintro ⟨rfl, rfl, nonzero⟩
        exact ⟨⟨rfl, nonzero⟩, rfl⟩

/-- A capital letter is 32 below its small one. -/
lemma toNat_toLower {a : Char} (low : 'A' ≤ a) (high : a ≤ 'Z') :
    a.toLower.toNat = a.toNat + 32 := by
  have upper : a.val ≥ 'A'.val ∧ a.val ≤ 'Z'.val := ⟨low, high⟩
  have small : a.val.toNat ≤ 90 := high
  have lowered : a.toLower.val = a.val + 32 := congrArg Char.val (dif_pos upper)
  show a.toLower.val.toNat = a.val.toNat + 32
  rw [lowered, UInt32.toNat_add]
  exact Nat.mod_eq_of_lt (show a.val.toNat + 32 < 4294967296 by omega)

/-- A character becomes this small one if it is the same letter. -/
lemma toLower_eq_iff {a b : Char} (lower : b.toLower = b) : a.toLower = b ↔ SameLetter a b := by
  constructor
  · rintro rfl
    by_cases upper : 'A' ≤ a ∧ a ≤ 'Z'
    · exact .upper upper.1 upper.2 (toNat_toLower upper.1 upper.2)
    · have same : a.toLower = a := dif_neg upper
      rw [same]
      exact .refl
  · intro same
    cases same with
    | refl => exact lower
    | upper low high code =>
      apply Char.toNat_inj.1
      rw [toNat_toLower low high, code]
    | lower low high _ =>
      have code : b.toLower.toNat = b.toNat + 32 := toNat_toLower low high
      rw [lower] at code
      omega

/-- A text becomes this one in small letters if its letters are the same. -/
lemma map_toLower_eq_iff {as bs : List Char} (lower : ∀ b ∈ bs, b.toLower = b) :
    as.map Char.toLower = bs ↔ List.Forall₂ SameLetter as bs := by
  induction as generalizing bs with
  | nil =>
    cases bs with
    | nil => simp
    | cons b bs => exact iff_of_false (by simp) (by rintro ⟨⟩)
  | cons a as ih =>
    cases bs with
    | nil => exact iff_of_false (by simp) (by rintro ⟨⟩)
    | cons b bs =>
      rw [List.map_cons, List.cons.injEq, List.forall₂_cons,
        toLower_eq_iff (lower b List.mem_cons_self),
        ih fun b member => lower b (List.mem_cons_of_mem _ member)]

/-- The names of levels are found in any case. -/
lemma mem_levelNames_iff {level : String} : level.toLower ∈ levelNames ↔ IsLevel level := by
  have all : levelNames.all fun name => name.toList.all fun b => b.toLower = b := by
    decide +kernel
  have lower : ∀ name ∈ levelNames, ∀ b ∈ name.toList, b.toLower = b := by simpa using all
  have same : ∀ name ∈ levelNames, level.toLower = name ↔
      List.Forall₂ SameLetter level.toList name.toList := by
    intro name member
    rw [← map_toLower_eq_iff (lower name member), ← String.toList_map, String.toList_inj]
    rfl
  constructor
  · exact fun member => ⟨_, member, (same _ member).1 rfl⟩
  · rintro ⟨name, member, letters⟩
    rwa [(same name member).2 letters]

/-- No port is read where none is asked for. -/
lemma eq_none_iff {port? : Option Nat} {P : Nat → Prop}
    (reads : ∀ port, port? = some port ↔ P port) : port?.isNone ↔ ∀ port, ¬P port := by
  rw [Option.isNone_iff_eq_none, Option.eq_none_iff_forall_ne_some]
  exact forall_congr' fun port => not_congr (reads port)

/-- A rule has a fault if and only if it is broken, and then it is the fault that tells of it. -/
lemma fault?_eq_some_iff {rule : Rule} :
    rule.fault? c = some fault ↔ Breach c fault ∧ fault.rule = rule := by
  constructor
  · intro broken
    refine ⟨?_, rule_of_fault? broken⟩
    cases rule <;>
      simp only [Rule.fault?, Option.ite_none_right_eq_some, Option.map_eq_some_iff,
        Option.some.injEq] at broken
    -- the only fault that carries what it found, and so the only one that is mapped
    case sharedPort =>
      obtain ⟨port, shared, rfl⟩ := broken
      obtain ⟨http, grpc, asks, asks', nonzero⟩ := sharedPort?_eq_some_iff.1 shared
      exact .sharedPort http grpc (httpPort?_eq_some_iff.1 asks) (grpcPort?_eq_some_iff.1 asks')
        nonzero
    all_goals obtain ⟨broken, rfl⟩ := broken
    case httpPort => exact .httpPort ((eq_none_iff fun _ => httpPort?_eq_some_iff).1 broken)
    case grpcPort => exact .grpcPort ((eq_none_iff fun _ => grpcPort?_eq_some_iff).1 broken)
    case requestTime => exact .requestTime broken
    case stopTime => exact .stopTime broken
    case logLevel => exact .logLevel (mt mem_levelNames_iff.2 broken)
    case logFormat =>
      simp only [formatNames, List.mem_cons, List.not_mem_nil, or_false, not_or] at broken
      exact .logFormat broken.1 broken.2
    case metricsAddress => exact .metricsAddress broken.1 broken.2
  · rintro ⟨breach, rfl⟩
    cases breach with
    | httpPort no => exact if_pos ((eq_none_iff fun _ => httpPort?_eq_some_iff).2 no)
    | grpcPort no => exact if_pos ((eq_none_iff fun _ => grpcPort?_eq_some_iff).2 no)
    | sharedPort http grpc asks asks' nonzero =>
      have shared := sharedPort?_eq_some_iff.2 ⟨http, grpc, httpPort?_eq_some_iff.2 asks,
        grpcPort?_eq_some_iff.2 asks', nonzero⟩
      exact congrArg (Option.map Fault.sharedPort) shared
    | requestTime zero => exact if_pos zero
    | stopTime zero => exact if_pos zero
    | logLevel unknown => exact if_pos (mt mem_levelNames_iff.1 unknown)
    | logFormat pretty json => exact if_pos (by simp [formatNames, pretty, json])
    | metricsAddress enabled none => exact if_pos ⟨enabled, none⟩

/-! ## All rules -/

/-- The faults of a configuration are its breaches. -/
lemma mem_faults_iff : fault ∈ faults c ↔ Breach c fault := by
  have every (rule : Rule) : rule ∈ Rule.all := by cases rule <;> decide
  rw [faults_eq, List.mem_filterMap]
  constructor
  · rintro ⟨rule, -, broken⟩
    exact (fault?_eq_some_iff.1 broken).1
  · intro breach
    exact ⟨fault.rule, every _, fault?_eq_some_iff.2 ⟨breach, rfl⟩⟩

/-- The faults stand in the order of the rules, with one for each at most. -/
lemma map_rule_sublist (rules : List Rule) :
    ((rules.filterMap (·.fault? c)).map Fault.rule).Sublist rules := by
  induction rules with
  | nil => exact .slnil
  | cons rule rules ih =>
    cases broken : rule.fault? c with
    | none =>
      rw [List.filterMap_cons_none broken]
      exact ih.cons rule
    | some fault =>
      rw [List.filterMap_cons_some broken, List.map_cons, rule_of_fault? broken]
      exact ih.cons_cons rule

/-- The faults of some rules depend on the items of these rules alone. -/
lemma filter_faults_congr {p : Rule → Bool}
    (same : ∀ rule, p rule → ∀ item ∈ rule.items, item.Same c c') :
    (faults c).filter (p ·.rule) = (faults c').filter (p ·.rule) := by
  rw [faults_eq, faults_eq, List.filter_filterMap, List.filter_filterMap]
  refine List.filterMap_congr fun rule _ => ?_
  cases chosen : p rule with
  | true => rw [fault?_congr (same rule chosen)]
  | false =>
    have none (c : Config) : (rule.fault? c).filter (p ·.rule) = none := by
      rw [Option.filter_eq_none_iff]
      intro fault broken
      rw [rule_of_fault? broken, chosen]
      exact Bool.false_ne_true
    rw [none c, none c']

/-- A fault points to the first item of its rule. -/
lemma path_items (fault : Fault) : fault.rule.items.head?.map Item.path = some fault.field := by
  cases fault <;> rfl

/-- A configuration without breaches is valid, and no other. -/
lemma validated_eq_ok_iff : validated c = .ok c ↔ ∀ fault, ¬Breach c fault := by
  constructor
  · intro valid fault breach
    have broken : fault ∈ faults c := mem_faults_iff.2 breach
    rw [faults_of_validated valid] at broken
    cases broken
  · intro kept
    exact validated_of_nil (List.eq_nil_iff_forall_not_mem.2 fun fault broken =>
      kept fault (mem_faults_iff.1 broken))

/-- With a breach, validation fails with all the faults. -/
lemma validated_of_breach (breach : Breach c fault) :
    ∃ es : Errors Fault, validated c = .error (.invalid es) ∧ es.toList = faults c := by
  have broken : fault ∈ faults c := mem_faults_iff.2 breach
  cases some : faults c with
  | nil =>
    rw [some] at broken
    cases broken
  | cons first others => exact ⟨⟨first, others⟩, validated_of_cons some, rfl⟩

/-- A configuration is valid if and only if it breaks no rule. Otherwise it is refused with one
fault for each rule that it breaks, in the order of the rules, and each points to the item that its
rule is about. The fault of a rule depends on the items of this rule alone; so where a single item
is corrected, the faults of all rules that are not about it stay as they are. -/
theorem faults_exact (c : Config) :
    (validated c = .ok c ↔ ∀ fault, ¬Breach c fault) ∧
      (∀ ⦃fault⦄, Breach c fault →
        ∃ es : Errors Fault, validated c = .error (.invalid es) ∧ es.toList = faults c) ∧
      (∀ fault, fault ∈ faults c ↔ Breach c fault) ∧
      ((faults c).map Fault.rule).Sublist Rule.all ∧
      (∀ fault : Fault, fault.rule.items.head?.map Item.path = some fault.field) ∧
      (∀ ⦃c' : Config⦄ ⦃rule : Rule⦄, (∀ item ∈ rule.items, item.Same c c') →
        (faults c).filter (·.rule = rule) = (faults c').filter (·.rule = rule)) ∧
      ∀ ⦃c' : Config⦄ ⦃item : Item⦄, (∀ other, other ≠ item → other.Same c c') →
        (faults c).filter (item ∉ ·.rule.items) = (faults c').filter (item ∉ ·.rule.items) := by
  refine ⟨validated_eq_ok_iff, fun fault => validated_of_breach, fun fault => mem_faults_iff, ?_,
    path_items, fun c' rule same => ?_, fun c' item same => ?_⟩
  · rw [faults_eq]
    exact map_rule_sublist Rule.all
  · refine filter_faults_congr (p := fun other => other = rule) fun other chosen => ?_
    rwa [of_decide_eq_true chosen]
  · refine filter_faults_congr (p := fun rule => item ∉ rule.items) fun rule apart => ?_
    intro other member
    refine same other fun equal => of_decide_eq_true apart ?_
    rwa [← equal]

/-- Both servers ask for the port nine, one of them with a host and padding, a stop has no time, and
the level is none. A level in mixed case removes its fault and touches no other. -/
theorem faults_exact_sharedPort :
    let c : Config :=
      { http := { port := "localhost:+09" }
        grpc := { enabled := true, port := "9" }
        shutdown := { timeoutMs := 0 }
        observability := { logLevel := "loud" } }
    let c' : Config := { c with observability := { c.observability with logLevel := "WaRn" } }
    Breach c (.sharedPort 9) ∧
      (∃ es : Errors Fault, validated c = .error (.invalid es) ∧ es.toList = faults c) ∧
      (faults c).map Fault.text =
        ["grpc.port: port 9 is already used by http", "shutdown.timeout_ms: must be greater than 0",
          "observability.log_level: unknown level \"loud\""] ∧
      faults c' = [.sharedPort 9, .noStopTime] ∧
      (faults c).filter (·.rule = .sharedPort) = (faults c').filter (·.rule = .sharedPort) ∧
      (faults c).filter (.logLevel ∉ ·.rule.items) = (faults c').filter (.logLevel ∉ ·.rule.items) := by
  intro c c'
  have breach : Breach c (.sharedPort 9) := ((faults_exact c).2.2.1 _).1 (by decide +kernel)
  refine ⟨breach, (faults_exact c).2.1 breach, by decide +kernel, by decide +kernel,
    (faults_exact c).2.2.2.2.2.1 ?_, (faults_exact c).2.2.2.2.2.2 ?_⟩
  · intro item member
    cases item <;> first | rfl | exact absurd member (by decide)
  · intro other differs
    cases other <;> first | rfl | exact absurd rfl differs

end Config

end Supervision
