import Supervision.Proofs.Visits

/-!
# The desk of a server

The visits of a server stand side by side at its desk. They begin, and go on after their waits, one
at a time, while other things happen besides (`Desk.Step`).

Every task that was spawned for the server is in custody (`Custody`): the server holds it, a visit
is about to stop it, or it is over. Nobody sets the address of a server but the launch of a task in
custody, or the task itself. Calls that are executed by the clock are visits
(`Desk.Sound.visit_of_runs`).
-/

namespace Supervision.Server
open Net World

variable {κ υ : Type}

/-! ## Custody -/

/-- The tasks of a server are held, over, or being stopped. -/
structure Custody (id : Nat) (stopping : Nat → Prop) (w : World κ υ) : Prop where
  known : ∃ s, w.servers[id]? = some s
  tasks : ∀ k, w.Owns id k → w.held id = some k ∨ IsOver k w ∨ stopping k
  held : ∀ k, w.held id = some k → w.Owns id k
  stops : ∀ k, stopping k → w.Owns id k
  address : ∀ a, w.addressOf id = some a → (∃ k, w.held id = some k) ∨ ∃ k, stopping k
  slots : ∀ (k : Nat) (t : ServeTask), w.tasks[k]? = some t → t.server = id → t.slot.IsSound

variable {id k : Nat} {a : SocketAddress} {news : Option (Nat × SocketAddress)}
  {stopping stopping' : Nat → Prop} {w w' : World κ υ}

/-- A server that is known stays known if its kind is the same. -/
lemma known_of_kind {w w' : World κ υ} (kind : w'.kindOf id = w.kindOf id)
    (known : ∃ s, w.servers[id]? = some s) : ∃ s, w'.servers[id]? = some s := by
  obtain ⟨s, here⟩ := known
  rw [World.kindOf, World.kindOf, here] at kind
  obtain ⟨s', here', -⟩ := Option.map_eq_some_iff.1 kind
  exact ⟨s', here'⟩

namespace Custody

/-- In custody, the task that a server holds is one of its own. -/
lemma hasTask (custody : Custody id stopping w) : HasTask id w := by
  intro k held
  obtain ⟨t, here, -⟩ := custody.held k held
  exact ⟨t, here⟩

/-- A task that is to bind an address has not been given up. -/
lemma pending (custody : Custody id stopping w) (pending : w.Pending id k) :
    w.held id = some k ∨ stopping k := by
  obtain held | ended | stops := custody.tasks k pending.owns
  · exact .inl held
  · exact absurd ended pending.not_isOver
  · exact .inr stops

/-- Tending a server keeps the slots of its tasks sound. -/
lemma slots_of_tends (custody : Custody id stopping w) (tends : Tends id w w') :
    ∀ (k : Nat) (t : ServeTask), w'.tasks[k]? = some t → t.server = id → t.slot.IsSound := by
  intro k t' here' server
  obtain ⟨t, here, server, -, sound⟩ := tends.back k t' here' server
  exact sound (custody.slots k t here server)

/-- What minds the tasks keeps them in custody. -/
lemma minds (custody : Custody id stopping w) (minds : Minds id news w w') :
    Custody id stopping w' where
  known := known_of_kind minds.kind custody.known
  tasks k owns := by
    have owned := minds.tends.owns.1 owns
    rw [minds.held]
    obtain held | ended | stops := custody.tasks k owned
    · exact .inl held
    · exact .inr (.inl (minds.tends.isOver owned ended))
    · exact .inr (.inr stops)
  held k held := by
    rw [minds.held] at held
    exact minds.forth k (custody.held k held)
  stops k stops := minds.forth k (custody.stops k stops)
  address a bound := by
    rw [minds.held]
    rw [minds.address] at bound
    cases news with
    | none => exact custody.address a bound
    | some new =>
      -- whoever binds is held, or being stopped
      obtain ⟨pending, -⟩ := minds.pending new.1 new.2 rfl
      exact (custody.pending pending).imp (fun held => ⟨_, held⟩) fun stops => ⟨_, stops⟩
  slots := custody.slots_of_tends minds.tends

/-- The host does not matter to the custody. -/
lemma onHost (custody : Custody id stopping w) (host : Host) :
    Custody id stopping { w with host := host } := by
  have minds : Minds id none w { w with host := host } := .of_eq rfl rfl
  exact custody.minds minds

/-- A new task of the server is held from its spawn on, and in custody with the others. -/
lemma spawns {a : Option SocketAddress} (custody : Custody id stopping w)
    (spawns : Spawns id k a w w') : Custody id stopping w' := by
  have owns {j : Nat} (other : j ≠ k) : w'.Owns id j ↔ w.Owns id j := by
    rw [World.Owns, World.Owns, spawns.others other]
  have owned : w'.Owns id k := ⟨_, spawns.task, rfl⟩
  refine ⟨known_of_kind spawns.kind custody.known, ?_, ?_, ?_, ?_, ?_⟩
  · intro j own
    by_cases same : j = k
    · subst same
      exact .inl spawns.held
    · obtain held | ⟨t, here, ended⟩ | stops := custody.tasks j ((owns same).1 own)
      · rw [spawns.idle] at held
        cases held
      · exact .inr (.inl ⟨t, (spawns.others same).trans here, ended⟩)
      · exact .inr (.inr stops)
  · intro j held
    rw [spawns.held] at held
    cases held
    exact owned
  · exact fun j stops => spawns.owns (custody.stops j stops)
  · exact fun _ _ => .inl ⟨k, spawns.held⟩
  · intro j t here own
    by_cases same : j = k
    · subst same
      cases spawns.task.symm.trans here
      exact fun _ => rfl
    · exact custody.slots j t ((spawns.others same).symm.trans here) own

/-- A task that is taken is being stopped from there on. -/
lemma takes (custody : Custody id stopping w) (held : w.held id = some k)
    (takes : Takes id k w w') : Custody id (fun j => stopping j ∨ j = k) w' := by
  obtain ⟨t, here, own⟩ := custody.held k held
  have tends := takes.tends here
  refine ⟨known_of_kind takes.kind custody.known, ?_, ?_, ?_, ?_, custody.slots_of_tends tends⟩
  · intro j owns
    have owned := tends.owns.1 owns
    obtain held' | ended | stops := custody.tasks j owned
    · cases held.symm.trans held'
      exact .inr (.inr (.inr rfl))
    · exact .inr (.inl (tends.isOver owned ended))
    · exact .inr (.inr (.inl stops))
  · intro j held
    rw [takes.held] at held
    cases held
  · rintro j (stops | rfl)
    · exact tends.forth j (custody.stops j stops)
    · exact tends.forth j (custody.held j held)
  · exact fun _ _ => .inr ⟨k, .inr rfl⟩

/-- A task whose stop concludes is over. -/
lemma concludes (custody : Custody id stopping w) (concludes : Concludes id k w w')
    (fewer : ∀ j, stopping' j → stopping j) (others : ∀ j, stopping j → j ≠ k → stopping' j) :
    Custody id stopping' w' := by
  have tends := concludes.tends
  refine ⟨known_of_kind concludes.kind custody.known, ?_, ?_, ?_, ?_,
    custody.slots_of_tends tends⟩
  · intro j owns
    have owned := tends.owns.1 owns
    by_cases same : j = k
    · subst same
      exact .inr (.inl concludes.ended)
    · rw [concludes.held]
      obtain held | ended | stops := custody.tasks j owned
      · exact .inl held
      · exact .inr (.inl (tends.isOver owned ended))
      · exact .inr (.inr (others j stops same))
  · intro j held
    rw [concludes.held] at held
    exact tends.forth j (custody.held j held)
  · exact fun j stops => tends.forth j (custody.stops j (fewer j stops))
  · intro a bound
    rw [concludes.address] at bound
    cases bound

/-- Custody depends on which tasks are being stopped, and not on how that is said. -/
lemma congr (custody : Custody id stopping w) (same : ∀ j, stopping' j ↔ stopping j) :
    Custody id stopping' w := by
  have equal : stopping' = stopping := funext fun j => propext (same j)
  rw [equal]
  exact custody

end Custody

/-! ## Desks -/

/-- A call at the desk. -/
structure Visit (κ υ : Type) where
  use : Use
  /-- The world when the visit began. -/
  began : World κ υ
  /-- What is left to do. -/
  rest : Flow κ υ Answer
  /-- The world before the latest step of the visit. -/
  before : World κ υ
  /-- The world after it. -/
  after : World κ υ

/-- The visits of a server, in the order in which they began. -/
structure Desk (κ υ : Type) where
  visits : List (Visit κ υ) := []
  world : World κ υ

namespace Visit

def IsOver (v : Visit κ υ) : Prop :=
  ∃ answer, v.rest = .done answer

/-- A visit that waits is not over. -/
lemma not_isOver {v : Visit κ υ} {trigger next} (rest : v.rest = .wait trigger next) :
    ¬v.IsOver := by
  rintro ⟨answer, ended⟩
  cases rest.symm.trans ended

/-- Whether a visit is over can be decided. -/
instance (v : Visit κ υ) : Decidable v.IsOver :=
  match h : v.rest with
  | .done answer => .isTrue ⟨answer, h⟩
  | .act _ _ => .isFalse fun ⟨_, ended⟩ => nomatch h.symm.trans ended
  | .wait _ _ => .isFalse fun ⟨_, ended⟩ => nomatch h.symm.trans ended

/-- The task that a visit is to stop: a shutdown takes the task that the server held. -/
def stopped? (id : Nat) (v : Visit κ υ) : Option Nat :=
  match v.use with
  | .launch => none
  | .shutdown _ => v.began.held id

/-- A shutdown stops the task that the server held when it began. -/
lemma stopped?_eq {v : Visit κ υ} {ctx : Token} {s : Server} (use : v.use = .shutdown ctx)
    (began : v.began.servers[id]? = some s) (serving : s.serving = some k) :
    v.stopped? id = some k := by
  rw [stopped?, use]
  exact held_of_serving began serving

/-- A visit that waits is a launch with its address, or a shutdown before the end of its race. -/
inductive IsProper (id : Nat) (kind : Option Kind) (v : Visit κ υ) : Prop where
  | ended : v.IsOver → IsProper id kind v
  | claims {a : SocketAddress} :
    v.use = .launch →
    kind = some .grpc →
    v.rest = claiming id a →
    IsProper id kind v
  | races {ctx : Token} {s : Server} {k : Nat} :
    v.use = .shutdown ctx →
    v.began.servers[id]? = some s →
    s.serving = some k →
    v.rest = racing id s k (v.began.now + s.timeoutMs) ctx →
    IsProper id kind v

/-- All that a visit can do after it has waited. -/
inductive Resumes (id : Nat) (w : World κ υ) (v : Visit κ υ) :
    Flow κ υ Answer → World κ υ → Prop where
  | refused {a : SocketAddress} {k : Nat} :
    v.use = .launch →
    w.held id = some k →
    Resumes id w v (.done (.launched (.error .alreadyStarted)))
      { w with host := w.host.release a }
  | spawned {a : SocketAddress} {k : Nat} {w' : World κ υ} :
    v.use = .launch →
    w.kindOf id = some .grpc →
    Spawns id k (some a) w w' →
    Resumes id w v (.done (.launched (.ok ()))) w'
  | stops {ctx : Token} {s : Server} {k : Nat} {result} {w' : World κ υ} :
    v.use = .shutdown ctx →
    v.began.servers[id]? = some s →
    s.serving = some k →
    Stops id s k (v.began.now + s.timeoutMs) ctx w result w' →
    Resumes id w v (.done (.shutDown result)) w'

/-- After its wait, a visit is over. -/
lemma Resumes.ended {w w' : World κ υ} {v : Visit κ υ} {rest}
    (resumes : v.Resumes id w rest w') : ∃ answer, rest = .done answer := by
  cases resumes with
  | refused => exact ⟨_, rfl⟩
  | spawned => exact ⟨_, rfl⟩
  | stops => exact ⟨_, rfl⟩

end Visit

namespace Desk

/-- Nobody waits. -/
def IsIdle (d : Desk κ υ) : Prop :=
  ∀ v ∈ d.visits, v.IsOver

/-- Whether nobody waits can be decided. -/
instance (d : Desk κ υ) : Decidable d.IsIdle :=
  inferInstanceAs (Decidable (∀ v ∈ d.visits, v.IsOver))

/-- A visit is about to stop the task. -/
def Stopping (id : Nat) (d : Desk κ υ) (k : Nat) : Prop :=
  ∃ v ∈ d.visits, ¬v.IsOver ∧ v.stopped? id = some k

/-- Whether somebody is about to stop a task can be decided. -/
instance (id : Nat) (d : Desk κ υ) (k : Nat) : Decidable (d.Stopping id k) :=
  inferInstanceAs (Decidable (∃ v ∈ d.visits, ¬v.IsOver ∧ v.stopped? id = some k))

/-- The desk with one more visit, which has taken its first step. -/
def add (use : Use) (rest : Flow κ υ Answer) (w : World κ υ) (d : Desk κ υ) : Desk κ υ where
  visits := d.visits ++ [⟨use, d.world, rest, d.world, w⟩]
  world := w

/-- The desk after a visit has taken a step. -/
def set (i : Nat) (v : Visit κ υ) (rest : Flow κ υ Answer) (w : World κ υ) (d : Desk κ υ) :
    Desk κ υ where
  visits := d.visits.set i { v with rest := rest, before := d.world, after := w }
  world := w

/-- A visit begins. -/
def begin (id : Nat) (use : Use) (d : Desk κ υ) : Desk κ υ :=
  let (rest, w) := (use.flow id).poll d.world
  d.add use rest w

/-- A visit goes on. -/
def resume (i : Nat) (v : Visit κ υ) (next : Flow κ υ Answer) (d : Desk κ υ) : Desk κ υ :=
  let (rest, w) := next.poll d.world
  d.set i v rest w

/-- A step at the desk of a server. Visits begin when they may. -/
inductive Step (id : Nat) (may : Desk κ υ → Prop) (d : Desk κ υ) : Desk κ υ → Prop where
  | begins (use : Use) :
    may d →
    Step id may d (d.begin id use)
  | resumes {i : Nat} {v : Visit κ υ} {trigger next} :
    d.visits[i]? = some v →
    v.rest = .wait trigger next →
    trigger.ready d.world = true →
    Step id may d (d.resume i v (next d.world))
  | besides {w : World κ υ} :
    World.Besides id d.world w →
    Step id may d { d with world := w }

abbrev Reaches (id : Nat) (may : Desk κ υ → Prop) : Desk κ υ → Desk κ υ → Prop :=
  Relation.ReflTransGen (Step id may)

/-- The tasks of the server are in custody, and its visits wait as they should. -/
structure Sound (id : Nat) (d : Desk κ υ) : Prop where
  custody : Custody id (d.Stopping id) d.world
  visits : ∀ v ∈ d.visits, v.IsProper id (d.world.kindOf id)

/-- All that can happen at a desk. -/
inductive Moves (id : Nat) (may : Desk κ υ → Prop) (d : Desk κ υ) : Desk κ υ → Prop where
  | begins {use : Use} {rest : Flow κ υ Answer} {w : World κ υ} :
    may d →
    Begins id d.world use rest w →
    Moves id may d (d.add use rest w)
  | resumes {i : Nat} {v : Visit κ υ} {rest : Flow κ υ Answer} {w : World κ υ} :
    d.visits[i]? = some v →
    ¬v.IsOver →
    v.Resumes id d.world rest w →
    Moves id may d (d.set i v rest w)
  | besides {w : World κ υ} :
    World.Besides id d.world w →
    Moves id may d { d with world := w }

variable {may : Desk κ υ → Prop} {d d' : Desk κ υ}

/-- A visit that waits does one of the things that it can do then. -/
lemma Sound.resumes {i : Nat} {v : Visit κ υ} {trigger next} (sound : d.Sound id)
    (there : d.visits[i]? = some v) (rest : v.rest = .wait trigger next)
    (ready : trigger.ready d.world = true) :
    ∃ rest w, (next d.world).poll d.world = (rest, w) ∧ v.Resumes id d.world rest w := by
  obtain ⟨s, here⟩ := sound.custody.known
  have waits : ¬v.IsOver := Visit.not_isOver rest
  cases sound.visits v (List.mem_of_getElem? there) with
  | ended ended => exact absurd ended waits
  | @claims a use kind claims =>
    rw [claims] at rest
    cases rest
    refine ⟨_, _, rfl, ?_⟩
    obtain ⟨k, held, answer, after⟩ | ⟨k, answer, spawns⟩ := claim_cases here rfl
    · rw [answer, after]
      exact .refused use held
    · rw [answer]
      exact .spawned use kind spawns
  | @races ctx s' k use began serving races =>
    have stopping : d.Stopping id k := by
      exact ⟨v, List.mem_of_getElem? there, waits, Visit.stopped?_eq use began serving⟩
    obtain ⟨t, task, -⟩ := sound.custody.stops k stopping
    rw [races] at rest
    cases rest
    obtain ⟨winner, decided⟩ := Option.isSome_iff_exists.1 ready
    obtain ⟨result, w, poll, stops⟩ := stops (s := s') decided here task
    refine ⟨.done (.shutDown result), w, ?_, .stops use began serving stops⟩
    dsimp only
    rw [decided, poll]

/-- A step at a sound desk is one of the moves. -/
lemma Sound.moves (sound : d.Sound id) (step : Step id may d d') : Moves id may d d' := by
  cases step with
  | begins use allowed =>
    obtain ⟨s, here⟩ := sound.custody.known
    cases use with
    | launch => exact .begins allowed (begins_launch here rfl)
    | shutdown ctx => exact .begins allowed (begins_shutdown here sound.custody.hasTask rfl)
  | @resumes i v trigger next there rest ready =>
    have waits : ¬v.IsOver := Visit.not_isOver rest
    obtain ⟨rest, w, polls, resumes⟩ := sound.resumes there rest ready
    rw [resume, polls]
    exact .resumes there waits resumes
  | besides besides => exact .besides besides

/-- With one more visit, those tasks are about to be stopped that were before, and the one that it
is to stop, if it waits. -/
lemma stopping_add {use : Use} {rest : Flow κ υ Answer} {w : World κ υ} :
    (d.add use rest w).Stopping id k ↔ d.Stopping id k ∨
      ¬(∃ answer, rest = .done answer) ∧
        Visit.stopped? id ⟨use, d.world, rest, d.world, w⟩ = some k := by
  constructor
  · rintro ⟨v, member, waits, stops⟩
    rcases List.mem_append.1 member with old | new
    · exact .inl ⟨v, old, waits, stops⟩
    · cases List.mem_singleton.1 new
      exact .inr ⟨waits, stops⟩
  · rintro (⟨v, member, waits, stops⟩ | ⟨waits, stops⟩)
    · exact ⟨v, List.mem_append_left _ member, waits, stops⟩
    · exact ⟨_, List.mem_append_right _ (List.mem_singleton.2 rfl), waits, stops⟩

/-- A visit that is over at once stops nothing any more. -/
lemma stopping_add_done {use : Use} {answer : Answer} {w : World κ υ} :
    (d.add use (.done answer) w).Stopping id k ↔ d.Stopping id k := by
  rw [stopping_add]
  constructor
  · rintro (stops | ⟨waits, -⟩)
    · exact stops
    · exact absurd ⟨answer, rfl⟩ waits
  · exact .inl

/-- The end of a visit adds no task that is to be stopped. -/
lemma stopping_of_set {i : Nat} {v : Visit κ υ} {answer : Answer} {w : World κ υ}
    (stops : (d.set i v (.done answer) w).Stopping id k) : d.Stopping id k := by
  obtain ⟨u, member, waits, stops⟩ := stops
  rcases List.mem_or_eq_of_mem_set member with old | rfl
  · exact ⟨u, old, waits, stops⟩
  · exact absurd ⟨answer, rfl⟩ waits

/-- A visit that ends leaves the tasks of the others to be stopped. -/
lemma stopping_set {i : Nat} {v : Visit κ υ} {answer : Answer} {w : World κ υ}
    (here : d.visits[i]? = some v) (stops : d.Stopping id k) (other : v.stopped? id ≠ some k) :
    (d.set i v (.done answer) w).Stopping id k := by
  obtain ⟨u, member, waits, stops⟩ := stops
  obtain ⟨j, there⟩ := List.mem_iff_getElem?.1 member
  have differ : i ≠ j := by
    rintro rfl
    cases here.symm.trans there
    exact other stops
  refine ⟨u, List.mem_of_getElem? (i := j) ?_, waits, stops⟩
  show (d.visits.set i _)[j]? = some u
  rw [List.getElem?_set_ne differ, there]

/-- A desk stays sound with one more visit that is proper. -/
lemma Sound.add {use : Use} {rest : Flow κ υ Answer} {w : World κ υ} (sound : d.Sound id)
    (custody : Custody id ((d.add use rest w).Stopping id) w)
    (kind : w.kindOf id = d.world.kindOf id)
    (proper : Visit.IsProper id (w.kindOf id) ⟨use, d.world, rest, d.world, w⟩) :
    (d.add use rest w).Sound id := by
  refine ⟨custody, fun v member => ?_⟩
  rcases List.mem_append.1 member with old | new
  · show v.IsProper id (w.kindOf id)
    rw [kind]
    exact sound.visits v old
  · cases List.mem_singleton.1 new
    exact proper

/-- A desk stays sound when a visit ends. -/
lemma Sound.set {i : Nat} {v : Visit κ υ} {answer : Answer} {w : World κ υ} (sound : d.Sound id)
    (custody : Custody id ((d.set i v (.done answer) w).Stopping id) w)
    (kind : w.kindOf id = d.world.kindOf id) : (d.set i v (.done answer) w).Sound id := by
  refine ⟨custody, fun u member => ?_⟩
  rcases List.mem_or_eq_of_mem_set member with old | rfl
  · show u.IsProper id (w.kindOf id)
    rw [kind]
    exact sound.visits u old
  · exact .ended ⟨answer, rfl⟩

/-- The end of a launch leaves the same tasks to be stopped. -/
lemma stopping_set_launch {i : Nat} {v : Visit κ υ} {answer : Answer} {w : World κ υ}
    (here : d.visits[i]? = some v) (use : v.use = .launch) :
    (d.set i v (.done answer) w).Stopping id k ↔ d.Stopping id k := by
  refine ⟨stopping_of_set, fun stops => stopping_set here stops ?_⟩
  rw [Visit.stopped?, use]
  exact fun h => nomatch h

/-- Every step at a sound desk leaves it sound. -/
theorem Sound.step (sound : d.Sound id) (step : Step id may d d') : d'.Sound id := by
  have custody := sound.custody
  cases sound.moves step with
  | begins _ begins =>
    cases begins with
    | refused => exact sound.add (custody.congr fun _ => stopping_add_done) rfl (.ended ⟨_, rfl⟩)
    | spawned kind spawns =>
      refine sound.add ?_ spawns.kind (.ended ⟨_, rfl⟩)
      exact (custody.spawns spawns).congr fun _ => stopping_add_done
    | failed => exact sound.add (custody.congr fun _ => stopping_add_done) rfl (.ended ⟨_, rfl⟩)
    -- a launch that waits stops nothing, and no task is there yet
    | @claims a host idle kind =>
      refine sound.add ?_ rfl (.claims rfl kind rfl)
      refine (custody.onHost host).congr fun j => ?_
      rw [stopping_add]
      constructor
      · rintro (stops | ⟨-, stops⟩)
        · exact stops
        · cases stops
      · exact .inl
    | nothing => exact sound.add (custody.congr fun _ => stopping_add_done) rfl (.ended ⟨_, rfl⟩)
    -- from here on the task is not held but about to be stopped
    | @takes ctx s k w here serving takes =>
      have held : d.world.held id = some k := held_of_serving here serving
      refine sound.add ?_ takes.kind (.races rfl here serving rfl)
      refine (custody.takes held takes).congr fun j => ?_
      rw [stopping_add]
      apply or_congr_right
      constructor
      · rintro ⟨-, stops⟩
        cases held.symm.trans stops
        rfl
      · rintro rfl
        refine ⟨?_, held⟩
        rintro ⟨answer, ended⟩
        cases ended
    -- the race was over at once: the task is taken and stopped in one step
    | @stops ctx s k v result w here serving takes stops =>
      have held : d.world.held id = some k := held_of_serving here serving
      refine sound.add ?_ (stops.concludes.kind.trans takes.kind) (.ended ⟨_, rfl⟩)
      refine (custody.takes held takes).concludes stops.concludes (fun j => ?_) fun j => ?_
      · exact fun stops => .inl (stopping_add_done.1 stops)
      · rintro (stops | rfl) other
        · exact stopping_add_done.2 stops
        · exact absurd rfl other
  | @resumes i v rest w here waits resumes =>
    cases resumes with
    | @refused a k use held =>
      refine sound.set ?_ rfl
      exact (custody.onHost _).congr fun j => stopping_set_launch here use
    | spawned use kind spawns =>
      refine sound.set ?_ spawns.kind
      exact (custody.spawns spawns).congr fun j => stopping_set_launch here use
    | @stops ctx s k result w use began serving stops =>
      refine sound.set ?_ stops.concludes.kind
      refine custody.concludes stops.concludes (fun j => stopping_of_set) fun j stops other => ?_
      refine stopping_set here stops fun same => ?_
      cases (Visit.stopped?_eq use began serving).symm.trans same
      exact other rfl
  | besides besides =>
    obtain ⟨news, minds⟩ := besides.minds
    constructor
    · exact custody.minds minds
    · intro v member
      rw [minds.kind]
      exact sound.visits v member

/-- A desk stays sound in all that follows. -/
theorem Sound.reaches (sound : d.Sound id) (reaches : Reaches id may d d') : d'.Sound id := by
  induction reaches with
  | refl => exact sound
  | tail _ step ih => exact ih.step step

/-- The tasks of a server remain its tasks. -/
lemma Sound.owns (sound : d.Sound id) (step : Step id may d d') (owns : d.world.Owns id k) :
    d'.world.Owns id k := by
  cases sound.moves step with
  | begins _ begins =>
    cases begins with
    | refused => exact owns
    | spawned kind spawns => exact spawns.owns owns
    | failed => exact owns
    | claims => exact owns
    | nothing => exact owns
    | @takes ctx s j w here serving takes =>
      obtain ⟨t, task, -⟩ := sound.custody.held j (held_of_serving here serving)
      exact (takes.tends task).forth k owns
    | @stops ctx s j v result w here serving takes stops =>
      obtain ⟨t, task, -⟩ := sound.custody.held j (held_of_serving here serving)
      exact stops.concludes.tends.forth k ((takes.tends task).forth k owns)
  | resumes here waits resumes =>
    cases resumes with
    | refused => exact owns
    | spawned use kind spawns => exact spawns.owns owns
    | stops use began serving stops => exact stops.concludes.tends.forth k owns
  | besides besides =>
    obtain ⟨news, minds⟩ := besides.minds
    exact minds.forth k owns

/-- A server keeps its tasks in all that follows. -/
lemma Sound.owns_reaches (sound : d.Sound id) (reaches : Reaches id may d d')
    (owns : d.world.Owns id k) : d'.world.Owns id k := by
  induction reaches with
  | refl => exact owns
  | tail before step ih => exact (sound.reaches before).owns step ih

/-- A server that was never launched. -/
structure IsFresh (id : Nat) (d : Desk κ υ) : Prop where
  visits : d.visits = []
  server : ∃ s, d.world.servers[id]? = some s ∧ s.serving = none ∧ s.localAddress = none
  tasks : ∀ t ∈ d.world.tasks, t.server ≠ id

/-- A fresh server has no tasks. -/
lemma IsFresh.not_owns (fresh : d.IsFresh id) : ¬d.world.Owns id k := by
  rintro ⟨t, there, own⟩
  exact fresh.tasks t (List.mem_of_getElem? there) own

/-- A desk at which nobody was is sound. -/
lemma IsFresh.sound (fresh : d.IsFresh id) : d.Sound id := by
  obtain ⟨s, here, serving, address⟩ := fresh.server
  have nobody {k : Nat} : ¬d.Stopping id k := by
    rintro ⟨v, member, -⟩
    rw [fresh.visits] at member
    cases member
  have idle : d.world.held id = none := held_of_serving here serving
  constructor
  · refine ⟨⟨s, here⟩, ?_, ?_, ?_, ?_, ?_⟩
    · exact fun k owns => absurd owns fresh.not_owns
    · intro k held
      cases idle.symm.trans held
    · exact fun k stops => absurd stops nobody
    · intro a bound
      rw [World.addressOf, here, Option.bind_some, address] at bound
      cases bound
    · exact fun k t there own => absurd ⟨t, there, own⟩ fresh.not_owns
  · intro v member
    rw [fresh.visits] at member
    cases member

/-! ## By the clock -/

/-- The step of the last visit changes only this one. -/
lemma set_concat {visits : List (Visit κ υ)} {v : Visit κ υ} {rest : Flow κ υ Answer}
    {w : World κ υ} (concat : d.visits = visits ++ [v]) :
    d.set visits.length v rest w =
      ⟨visits ++ [{ v with rest := rest, before := d.world, after := w }], w⟩ := by
  rw [set, concat, List.set_append_right _ _ (Nat.le_refl _), Nat.sub_self]
  rfl

/-- Time passes until the latest visit can go on. -/
lemma Sound.wait_runs {visits : List (Visit κ υ)} {v : Visit κ υ} {trigger next}
    {answer : Answer} {w w' : World κ υ} (sound : Sound id ⟨visits ++ [v], w⟩)
    (waits : v.rest = .wait trigger next) (idle : trigger.idle = false)
    (runs : v.rest.Runs World.clockwork.setting w (some answer) w') :
    ∃ u : Visit κ υ, u.use = v.use ∧ u.began = v.began ∧ u.rest = .done answer ∧ u.after = w' ∧
      Reaches id may ⟨visits ++ [v], w⟩ ⟨visits ++ [u], w'⟩ := by
  rw [waits] at runs
  cases runs with
  | @resumed _ _ _ t _ _ passes ends runs =>
    let d : Desk κ υ := ⟨visits ++ [v], t⟩
    have passes : Reaches id may ⟨visits ++ [v], w⟩ d :=
      (besides_of_passes passes).lift (fun w => (⟨visits ++ [v], w⟩ : Desk κ υ))
        fun _ _ besides => .besides besides
    have ready : trigger.ready t = true := by rwa [Trigger.ends, idle, Bool.or_false] at ends
    have there : d.visits[visits.length]? = some v := List.getElem?_concat_length
    have step : Step id may d (d.resume visits.length v (next t)) := .resumes there waits ready
    obtain ⟨rest, w', polls, resumes⟩ := (sound.reaches passes).resumes there waits ready
    obtain ⟨answer', rfl⟩ := resumes.ended
    have runs := runs.poll
    rw [polls] at runs
    cases runs
    rw [resume, polls] at step
    dsimp only at step
    rw [set_concat rfl] at step
    refine ⟨{ v with rest := .done answer, before := t, after := w' }, rfl, rfl, rfl, rfl, ?_⟩
    exact passes.tail step

/-- A call that is executed by the clock is a visit. -/
theorem Sound.visit_of_runs {use : Use} {answer : Answer} {w : World κ υ} (sound : d.Sound id)
    (allowed : may d)
    (runs : (use.flow id).Runs World.clockwork.setting d.world (some answer) w) :
    ∃ v : Visit κ υ, v.use = use ∧ v.began = d.world ∧ v.rest = .done answer ∧ v.after = w ∧
      Reaches id may d ⟨d.visits ++ [v], w⟩ := by
  have begins : Step id may d (d.begin id use) := .begins use allowed
  have sound' := sound.step begins
  have runs := runs.poll
  rw [begin] at begins sound'
  generalize (use.flow id).poll d.world = polled at runs begins sound'
  obtain ⟨rest, w'⟩ := polled
  dsimp only [Desk.add] at runs begins sound'
  cases sound'.visits _ (List.mem_append_right _ (List.mem_singleton.2 rfl)) with
  | ended ended =>
    obtain ⟨answer', ended⟩ := ended
    dsimp only at ended
    subst ended
    cases runs
    exact ⟨_, rfl, rfl, rfl, rfl, .single begins⟩
  | claims _ _ claims =>
    obtain ⟨v, use, began, ended, after, reaches⟩ := sound'.wait_runs claims rfl runs
    exact ⟨v, use, began, ended, after, reaches.head begins⟩
  | races _ _ _ races =>
    obtain ⟨v, use, began, ended, after, reaches⟩ := sound'.wait_runs races rfl runs
    exact ⟨v, use, began, ended, after, reaches.head begins⟩

end Desk

end Supervision.Server
