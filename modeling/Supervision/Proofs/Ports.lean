import Mathlib.Data.List.Infix
import Mathlib.Tactic.Lemma
import Supervision.Net.Host

/-!
# Ports of bind addresses

The port of a spec is read twice. `specPort?` reads what follows the last colon, and
`resolveBindAddress` first tries the strict form of a whole socket address, with another grammar.
`specPort?_resolve` says that the two never disagree. The reason is `ofChars?_port`: a strict socket
address ends with a colon and its port, and there is no colon in a port.
-/

namespace Supervision

/-! ## Readers -/

namespace Text

/-- What cannot be split has no separator. -/
lemma not_mem_of_splitLast? {sep : Char} {text : List Char} (h : splitLast? sep text = none) :
    sep ∉ text := by
  induction text with
  | nil => exact List.not_mem_nil
  | cons c rest ih =>
    rw [splitLast?] at h
    cases later : splitLast? sep rest with
    | some parts => simp [later] at h
    | none =>
      have other : c ≠ sep := by
        intro same
        simp [later, same] at h
      intro member
      rcases List.mem_cons.1 member with here | there
      · exact other here.symm
      · exact ih later there

/-- A text with a separator is split at the last one. -/
lemma splitLast?_append {sep : Char} (before : List Char) {after : List Char}
    (last : sep ∉ after) : splitLast? sep (before ++ sep :: after) = some (before, after) := by
  have none : splitLast? sep after = none := by
    induction after with
    | nil => rfl
    | cons c rest ih =>
      have other : c ≠ sep := fun same => last (same ▸ List.mem_cons_self)
      simp [splitLast?, ih fun member => last (List.mem_cons_of_mem c member), other]
  induction before with
  | nil => simp [splitLast?, none]
  | cons c before ih => simp [splitLast?, ih]

/-- More text in front is put before the first part. -/
lemma splitLast?_append_left {sep : Char} {text before after : List Char} (more : List Char)
    (split : splitLast? sep text = some (before, after)) :
    splitLast? sep (more ++ text) = some (more ++ before, after) := by
  induction more with
  | nil => exact split
  | cons c more ih => simp [splitLast?, ih]

/-- A reader leaves an end of its text. -/
def Leaves {α : Type} (read : Reader α) : Prop :=
  ∀ ⦃text value rest⦄, read text = some (value, rest) → rest <:+ text

/-- A reader that goes on as another one leaves an end of its text. -/
lemma Leaves.bind {α β : Type} {first : Reader α} {f : α × List Char → Option (β × List Char)}
    (leaves : Leaves first) (next : ∀ a, Leaves fun text => f (a, text)) :
    Leaves fun text => first text >>= f := by
  intro text value rest h
  obtain ⟨⟨a, middle⟩, taken, h⟩ := Option.bind_eq_some_iff.1 h
  have end₁ : middle <:+ text := leaves taken
  have end₂ : rest <:+ middle := next a h
  exact end₂.trans end₁

/-- A reader of nothing leaves its text. -/
lemma leaves_some {α : Type} (value : α) : Leaves fun text => some (value, text) := by
  intro text value' rest h
  cases h
  exact List.suffix_refl text

/-- A reader of one character leaves what comes after it. -/
lemma leaves_expect {c : Char} : Leaves (expect c) := by
  intro text value rest h
  cases text with
  | nil => cases h
  | cons d text =>
    rw [expect] at h
    split at h
    · cases h
      exact List.suffix_cons d rest
    · cases h

/-- The digits that are taken stand at the beginning of the text, and the rest is left. -/
lemma takeDigits_eq (radix : Nat) (text : List Char) :
    ∃ cs, text = cs ++ (takeDigits radix text).2 ∧
      cs.mapM (digitValue? radix) = some (takeDigits radix text).1 ∧
      ∀ c ∈ cs, digitValue? radix c ≠ none := by
  induction text with
  | nil => exact ⟨[], rfl, rfl, nofun⟩
  | cons c text ih =>
    obtain ⟨cs, split, digits, are⟩ := ih
    cases digit : digitValue? radix c with
    | none => exact ⟨[], by simp [takeDigits, digit], by simp [takeDigits, digit], nofun⟩
    | some d =>
      refine ⟨c :: cs, ?_, ?_, ?_⟩
      · simp only [takeDigits, digit, List.cons_append]
        rw [← split]
      · simp [takeDigits, digit, digits]
      · intro c' member
        rcases List.mem_cons.1 member with rfl | member
        · simp [digit]
        · exact are c' member

/-- A number is written by the digits that are taken. -/
lemma number_eq {form : NumberForm} {text rest : List Char} {value : Nat}
    (h : number form text = some (value, rest)) :
    ∃ cs digits, text = cs ++ rest ∧ cs ≠ [] ∧ cs.mapM (digitValue? form.radix) = some digits ∧
      value = ofDigits form.radix digits ∧ value < form.bound ∧
      ∀ c ∈ cs, digitValue? form.radix c ≠ none := by
  obtain ⟨cs, split, digits, are⟩ := takeDigits_eq form.radix text
  unfold number at h
  dsimp only at h
  rw [Option.ite_none_left_eq_some] at h
  obtain ⟨fits, same⟩ := h
  cases same
  simp only [Bool.or_eq_true, decide_eq_true_eq, not_or, Nat.not_le, List.isEmpty_iff] at fits
  refine ⟨cs, _, split, ?_, digits, rfl, fits.2, are⟩
  intro empty
  rw [empty] at digits
  exact fits.1.1.1 (Option.some.inj digits).symm

/-- A reader of a number leaves an end of its text. -/
lemma leaves_number {form : NumberForm} : Leaves (number form) := by
  intro text value rest h
  obtain ⟨cs, _, split, -⟩ := number_eq h
  exact ⟨cs, split.symm⟩

end Text

open Text

namespace Net

/-! ## Strict socket addresses -/

/-- A reader of an address of version 4 leaves an end of its text. -/
lemma leaves_ipv4 : Leaves Ipv4.read := by
  refine leaves_number.bind fun a => leaves_expect.bind fun _ => ?_
  refine leaves_number.bind fun b => leaves_expect.bind fun _ => ?_
  refine leaves_number.bind fun c => leaves_expect.bind fun _ => ?_
  exact leaves_number.bind fun d => leaves_some _

/-- A reader after a separator leaves an end of its text. -/
lemma leaves_separated {α : Type} {first : Bool} {read : Reader α} (leaves : Leaves read) :
    Leaves (Ipv6.separated first read) := by
  cases first with
  | true => exact leaves
  | false => exact leaves_expect.bind fun _ => leaves

/-- A reader of groups leaves an end of its text. -/
lemma suffix_readGroups {room : Nat} {first : Bool} {text : List Char} :
    (Ipv6.readGroups room first text).2 <:+ text := by
  induction room generalizing first text with
  | zero => exact List.suffix_refl text
  | succ room ih =>
    rw [Ipv6.readGroups]
    dsimp only
    split
    next ip rest embedded =>
      split at embedded
      · cases embedded
      · exact leaves_separated leaves_ipv4 embedded
    next =>
      split
      next => exact List.suffix_refl text
      next g rest taken =>
        have leaves : Leaves (Ipv6.separated first Ipv6.group) := leaves_separated leaves_number
        exact ih.trans (leaves taken)

/-- A reader of an address of version 6 leaves an end of its text. -/
lemma leaves_ipv6 : Leaves Ipv6.read := by
  intro text ip rest h
  have front : (Ipv6.readGroups 8 true text).2 <:+ text := suffix_readGroups
  unfold Ipv6.read at h
  dsimp only at h
  by_cases full : (Ipv6.readGroups 8 true text).1.1.length = 8
  · rw [if_pos full] at h
    cases h
    exact front
  · rw [if_neg full, Option.ite_none_left_eq_some] at h
    obtain ⟨⟨_, text₁⟩, colon₁, h⟩ := Option.bind_eq_some_iff.1 h.2
    obtain ⟨⟨_, text₂⟩, colon₂, h⟩ := Option.bind_eq_some_iff.1 h
    cases h
    apply List.IsSuffix.trans suffix_readGroups
    apply List.IsSuffix.trans (leaves_expect colon₂)
    exact (leaves_expect colon₁).trans front

/-- A reader of a scope leaves an end of its text. -/
lemma suffix_readScope {text : List Char} : (SocketAddress.readScope text).2 <:+ text := by
  have leaves : Leaves fun text => expect '%' text >>= fun read =>
      number ⟨10, none, true, Nat.pow 2 32⟩ read.2 :=
    leaves_expect.bind fun _ => leaves_number
  show ((expect '%' text >>= fun read => number ⟨10, none, true, Nat.pow 2 32⟩ read.2).getD
    (0, text)).2 <:+ text
  cases scope : (expect '%' text >>= fun read => number ⟨10, none, true, Nat.pow 2 32⟩ read.2) with
  | none => exact List.suffix_refl text
  | some read => exact leaves scope

/-- A text ends with a colon and a port. -/
def EndsWithPort (text : List Char) (port : Nat) : Prop :=
  ∃ before digits, text = before ++ ':' :: digits ∧ ':' ∉ digits ∧
    readDecimal? portBound digits = some port

/-- An end with a port is an end of the whole text as well. -/
lemma EndsWithPort.of_suffix {text rest : List Char} {port : Nat} (ends : EndsWithPort rest port)
    (suffix : rest <:+ text) : EndsWithPort text port := by
  obtain ⟨before, digits, rfl, none, read⟩ := ends
  obtain ⟨more, rfl⟩ := suffix
  exact ⟨more ++ before, digits, by simp, none, read⟩

/-- After its last colon, a text that ends with a port has just the digits of it. -/
lemma EndsWithPort.of_split {text before digits : List Char} {port : Nat}
    (ends : EndsWithPort text port) (split : splitLast? ':' text = some (before, digits)) :
    readDecimal? portBound digits = some port := by
  obtain ⟨before', digits', rfl, none, read⟩ := ends
  rw [splitLast?_append before' none] at split
  cases split
  exact read

/-- Digits are read as they are, since there is no sign in front. -/
lemma readDecimal?_of_digits {bound : Nat} {cs : List Char}
    (digits : ∀ c ∈ cs, digitValue? 10 c ≠ none) :
    readDecimal? bound cs = readDigits? bound cs := by
  cases cs with
  | nil => rfl
  | cons c cs =>
    rw [readDecimal?]
    rintro rest ⟨⟩
    have plus : digitValue? 10 '+' = none := by decide
    exact digits '+' List.mem_cons_self plus

/-- A port that is read to the end of its text is what the text ends with. -/
lemma readPort_ends {text : List Char} {port : Nat}
    (h : SocketAddress.readPort text = some (port, [])) : EndsWithPort text port := by
  obtain ⟨⟨_, rest⟩, colon, read⟩ := Option.bind_eq_some_iff.1 h
  cases text with
  | nil => cases colon
  | cons c text =>
    rw [expect] at colon
    split at colon
    next same =>
      cases colon
      obtain ⟨cs, digits, split, nonempty, values, sum, below, are⟩ := number_eq read
      rw [List.append_nil] at split
      subst split
      refine ⟨[], rest, by simp [same], ?_, ?_⟩
      · intro member
        have none : digitValue? 10 ':' = none := by decide
        exact are ':' member none
      · rw [readDecimal?_of_digits are, readDigits?, if_neg (by simpa using nonempty)]
        dsimp only at values
        rw [values, Option.map_some, ← sum]
        simpa [Option.filter] using below
    next => cases colon

/-- The port of a strict socket address follows its last colon. -/
lemma ofChars?_port {text : List Char} {found : SocketAddress}
    (h : SocketAddress.ofChars? text = some found) : EndsWithPort text found.port := by
  have whole_eq {read : Reader SocketAddress} (h : whole read text = some found) :
      read text = some (found, []) := by
    unfold whole at h
    split at h
    · cases h
      assumption
    · cases h
  rcases Option.or_eq_some_iff.1 h with h | ⟨-, h⟩
  · have read : SocketAddress.readV4 text = some (found, []) := whole_eq h
    obtain ⟨⟨ip, rest⟩, address, h⟩ := Option.bind_eq_some_iff.1 read
    obtain ⟨⟨port, rest'⟩, ends, h⟩ := Option.bind_eq_some_iff.1 h
    cases h
    exact (readPort_ends ends).of_suffix (leaves_ipv4 address)
  · have read : SocketAddress.readV6 text = some (found, []) := whole_eq h
    obtain ⟨⟨_, text₁⟩, opening, h⟩ := Option.bind_eq_some_iff.1 read
    obtain ⟨⟨ip, text₂⟩, address, h⟩ := Option.bind_eq_some_iff.1 h
    obtain ⟨⟨_, text₃⟩, closing, h⟩ := Option.bind_eq_some_iff.1 h
    obtain ⟨⟨port, rest⟩, ends, h⟩ := Option.bind_eq_some_iff.1 h
    cases h
    apply (readPort_ends ends).of_suffix
    apply List.IsSuffix.trans (leaves_expect closing)
    apply List.IsSuffix.trans suffix_readScope
    exact (leaves_ipv6 address).trans (leaves_expect opening)

/-! ## Two readings of one port -/

/-- Whatever is looked up has the port that was asked for. -/
def Lookup.KeepsPort (lookup : Lookup) : Prop :=
  ∀ host port found, lookup host port = .ok found → ∀ address ∈ found, address.port = port

/-- Addresses that are numeric keep their port. -/
lemma keepsPort_numericLookup : numericLookup.KeepsPort := by
  intro host port found h address member
  unfold numericLookup at h
  split at h
  · cases h
    rw [List.mem_singleton.1 member]
    rfl
  · split at h
    · cases h
      rw [List.mem_singleton.1 member]
      rfl
    · cases h

/-- A port in normal form has a colon. -/
lemma colon_mem_normalizePort (spec fallback : String) :
    ':' ∈ (normalizePort spec fallback).toList := by
  unfold normalizePort
  dsimp only
  generalize (if spec.isEmpty then fallback else spec) = chosen
  split
  · decide
  · split
    next colon => simpa using colon
    next => simp

section
variable {lookup : Lookup} {address : String} {before digits : List Char} {port : Nat}

/-- The port of an address is what follows its last colon. -/
lemma specPort?_eq (split : splitLast? ':' address.toList = some (before, digits)) :
    specPort? address = readDecimal? portBound digits := by
  rw [specPort?, split]

/-- What becomes of a host with the port that was read. -/
def lookedUp (lookup : Lookup) (address host : String) :
    Option Nat → Except ResolveError SocketAddress
  | none => .error .invalidPort
  | some port =>
    match lookup host port with
    | .error reason => .error (.lookup reason)
    | .ok [] => .error (.lookup ("address " ++ address ++ " did not resolve"))
    | .ok (found :: _) => .ok found

/-- An address with a colon is strict, or its host is looked up with what follows the colon. -/
lemma resolveBindAddress_eq (lookup : Lookup)
    (split : splitLast? ':' address.toList = some (before, digits)) :
    (∃ found, resolveBindAddress lookup address = .ok found ∧
      readDecimal? portBound digits = some found.port) ∨
    ∃ host, resolveBindAddress lookup address =
      lookedUp lookup address host (readDecimal? portBound digits) := by
  unfold resolveBindAddress
  dsimp only
  generalize whole : (if address.toList.head? = some ':' then "0.0.0.0".toList ++ address.toList
    else address.toList) = full
  have split : ∃ host, splitLast? ':' full = some (host, digits) := by
    rw [← whole]
    by_cases bare : address.toList.head? = some ':'
    · rw [if_pos bare]
      exact ⟨_, splitLast?_append_left _ split⟩
    · rw [if_neg bare]
      exact ⟨_, split⟩
  obtain ⟨host, split⟩ := split
  cases strict : SocketAddress.ofChars? full with
  | some found =>
    left
    have ends : EndsWithPort full found.port := ofChars?_port strict
    exact ⟨found, rfl, ends.of_split split⟩
  | none =>
    right
    refine ⟨String.ofList host, ?_⟩
    rw [split]
    rfl

/-- Without a port after its last colon, no address is bound. -/
lemma resolveBindAddress_of_none (split : splitLast? ':' address.toList = some (before, digits))
    (none : readDecimal? portBound digits = none) :
    resolveBindAddress lookup address = .error .invalidPort := by
  rcases resolveBindAddress_eq lookup split with ⟨found, -, read⟩ | ⟨host, same⟩
  · rw [none] at read
    cases read
  · rw [same, none]
    rfl

/-- With a port after its last colon, an address is bound to it, or its host is not found. -/
lemma resolveBindAddress_of_some (keeps : lookup.KeepsPort)
    (split : splitLast? ':' address.toList = some (before, digits))
    (read : readDecimal? portBound digits = some port) :
    (∃ found, resolveBindAddress lookup address = .ok found ∧ found.port = port) ∨
      ∃ host reason, resolveBindAddress lookup address = .error (.lookup reason) ∧
        (lookup host port = .error reason ∨ lookup host port = .ok []) := by
  rcases resolveBindAddress_eq lookup split with ⟨found, same, read'⟩ | ⟨host, same⟩
  · left
    rw [read] at read'
    exact ⟨found, same, (Option.some.inj read').symm⟩
  · rw [read] at same
    dsimp only [lookedUp] at same
    cases looked : lookup host port with
    | error reason =>
      rw [looked] at same
      exact .inr ⟨host, reason, same, .inl looked⟩
    | ok addresses =>
      rw [looked] at same
      cases addresses with
      | nil => exact .inr ⟨host, _, same, .inr looked⟩
      | cons found others =>
        have port_eq : found.port = port := keeps host port _ looked found List.mem_cons_self
        exact .inl ⟨found, same, port_eq⟩

end

/-- A spec has no port if and only if its address is refused for its port. If it has one, the
address resolves to this port, or the host has no address; it is never refused as a whole. -/
theorem specPort?_resolve {lookup : Lookup} (keeps : lookup.KeepsPort) (spec fallback : String) :
    (specPort? (normalizePort spec fallback) = none ↔
      resolveBindAddress lookup (normalizePort spec fallback) = .error .invalidPort) ∧
    (∀ port, specPort? (normalizePort spec fallback) = some port →
      (∃ found, resolveBindAddress lookup (normalizePort spec fallback) = .ok found ∧
        found.port = port) ∨
      ∃ host reason,
        resolveBindAddress lookup (normalizePort spec fallback) = .error (.lookup reason) ∧
        (lookup host port = .error reason ∨ lookup host port = .ok [])) ∧
    resolveBindAddress lookup (normalizePort spec fallback) ≠ .error .invalidSocketAddress ∧
    ResolveError.message .invalidPort = "invalid port value" ∧
    ResolveError.message .invalidSocketAddress = "invalid socket address" := by
  have colon : ':' ∈ (normalizePort spec fallback).toList := colon_mem_normalizePort spec fallback
  generalize normalizePort spec fallback = address at colon ⊢
  cases split : splitLast? ':' address.toList with
  | none => exact absurd colon (not_mem_of_splitLast? split)
  | some parts =>
    obtain ⟨before, digits⟩ := parts
    rw [specPort?_eq split]
    cases read : readDecimal? portBound digits with
    | none =>
      have refused : resolveBindAddress lookup address = .error .invalidPort :=
        resolveBindAddress_of_none split read
      rw [refused]
      exact ⟨by simp, nofun, nofun, rfl, rfl⟩
    | some port =>
      have found_or := resolveBindAddress_of_some keeps split read
      refine ⟨⟨nofun, ?_⟩, ?_, ?_, rfl, rfl⟩
      · intro refused
        rw [refused] at found_or
        rcases found_or with ⟨found, same, -⟩ | ⟨host, reason, same, -⟩
        · cases same
        · cases same
      · intro port' same
        cases same
        exact found_or
      · intro refused
        rw [refused] at found_or
        rcases found_or with ⟨found, same, -⟩ | ⟨host, reason, same, -⟩
        · cases same
        · cases same

/-- A padded port with a sign, after a host that is no strict address. -/
theorem specPort?_resolve_padded :
    numericLookup.KeepsPort ∧
    specPort? (normalizePort "010.1:+0080" ":50051") = some 80 ∧
    ∃ found, resolveBindAddress numericLookup (normalizePort "010.1:+0080" ":50051") = .ok found ∧
      found.port = 80 := by
  have port : specPort? (normalizePort "010.1:+0080" ":50051") = some 80 := by decide +kernel
  have resolves : (resolveBindAddress numericLookup (normalizePort "010.1:+0080" ":50051")).isOk := by
    decide +kernel
  rcases (specPort?_resolve keepsPort_numericLookup "010.1:+0080" ":50051").2.1 80 port with
    found | ⟨host, reason, failed, -⟩
  · exact ⟨keepsPort_numericLookup, port, found⟩
  · rw [failed] at resolves
    cases resolves

end Net

end Supervision
