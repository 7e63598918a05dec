import GpuTelemetry.Proofs.Roster.Names
import GpuTelemetry.Vendor.Bench

/-!
# The ledger of sessions

Every session that was opened and not closed belongs to something that is held: a library, a
collector, or a roster with the collector in it. Building gives back a thing that owns its session
or closes the session on the way out, and whatever is replaced or dropped closes what it owned, so
the ledger is even after every move. Once everything is dropped, the library was closed as often as
it was opened.
-/

namespace GpuTelemetry

/-- The names in a roster are names of its registrations, in their order. -/
theorem Roster.names_sublist_of_build {ω κ : Type} {settings : Settings}
    {registrations : List (Registration ω κ)} {world : ω} {roster : Roster κ}
    (h : (Roster.build settings registrations world).outcome = .ok roster) :
    roster.names.Sublist (registrations.map Registration.name) := by
  unfold Roster.build at h
  split at h
  · cases h
  · split at h
    · cases h
    · cases h
      exact Registration.names_buildMembers_sublist settings registrations world

namespace Vendor

/-- How many sessions belong to a thing, if it could be built. -/
def owned {ε α : Type} (sessions : α → Nat) : Except ε α → Nat
  | .ok thing => sessions thing
  | .error _ => 0

/-- A session, or a collector over one. -/
def one {α : Type} (_ : α) : Nat := 1

private theorem length_toList_toOption {ε α : Type} (outcome : Except ε α) :
    outcome.toOption.toList.length = owned one outcome := by
  cases outcome <;> rfl

namespace Host

/-- How many sessions were opened and not closed. -/
def balance (host : Host) : Int := host.opened - host.closed

private theorem balance_close (host : Host) (sessions : Nat) :
    (host.close sessions).balance = host.balance - sessions := by
  simp only [balance, close]
  omega

/-- Opening the library opens a session if it succeeds, whether or not the driver tells its
version. -/
theorem balance_openSession (host : Host) :
    host.openSession.world.balance = host.balance + owned one host.openSession.outcome := by
  unfold openSession
  split
  · simp only [owned]
    omega
  · simp only [owned, one, balance]
    omega

/-- A session that is moved into a collector belongs to it or is closed. -/
theorem balance_adopt (host : Host) (session : Session) (metricNamespace : String)
    (span : Option String) :
    (host.adopt session metricNamespace span).2.balance + 1 =
      host.balance + owned one (host.adopt session metricNamespace span).1 := by
  unfold adopt
  split
  · simp only [owned, one]
    omega
  · simp only [owned, balance_close]
    omega

/-- A new collector owns the session that was opened for it; without a collector none stays
open. -/
theorem balance_openCollector (host : Host) (metricNamespace : String) (span : Option String) :
    (host.openCollector metricNamespace span).world.balance =
      host.balance + owned one (host.openCollector metricNamespace span).outcome := by
  have hopen := host.balance_openSession
  unfold openCollector
  dsimp only
  split
  · rename_i error he
    rw [he] at hopen
    exact hopen
  · rename_i session hs
    rw [hs] at hopen
    have hadopt := host.openSession.world.balance_adopt session metricNamespace span
    simp only [owned, one] at hopen
    dsimp only
    omega

end Host

/-- The registration opens a session for each collector that it builds, and leaves none open
without. -/
def Paired (registration : Registration Host (GpuCollector Session)) : Prop :=
  ∀ context host, (registration.factory context host).world.balance =
    host.balance + owned one (registration.factory context host).outcome

/-- Every registered factory closes what it opened unless it gives it back. -/
theorem paired_registrations : ∀ registration ∈ registrations, Paired registration := by
  intro registration h
  obtain rfl := List.mem_singleton.mp h
  intro context host
  exact host.balance_openCollector context.metricNamespace (some context.collector)

/-- The members that are built own one session each. -/
theorem balance_buildMembers (settings : Settings)
    {registrations : List (Registration Host (GpuCollector Session))}
    (h : ∀ registration ∈ registrations, Paired registration) (host : Host) :
    (Registration.buildMembers settings registrations host).2.2.balance =
      host.balance + (Registration.buildMembers settings registrations host).1.length := by
  induction registrations generalizing host with
  | nil =>
    simp only [Registration.buildMembers, List.length_nil]
    omega
  | cons registration rest ih =>
    obtain ⟨hfirst, hrest⟩ := List.forall_mem_cons.mp h
    rw [Registration.buildMembers]
    dsimp only
    split
    · have hbuilt := hfirst ⟨settings.metricNamespace, registration.name⟩ host
      have hlater := ih hrest
        (registration.factory ⟨settings.metricNamespace, registration.name⟩ host).world
      split
      · rename_i collector hc
        rw [hc] at hbuilt
        simp only [owned, one] at hbuilt
        simp only [List.length_cons]
        omega
      · rename_i failure hf
        rw [hf] at hbuilt
        simp only [owned] at hbuilt
        dsimp only
        omega
    · exact ih hrest host

/-- A new roster owns the sessions of its members; without a roster none stays open. -/
theorem balance_start (document : Option String) (host : Host) :
    (Roster.start document registrations host).world.balance =
      host.balance + owned (fun roster => roster.members.length)
        (Roster.start document registrations host).outcome := by
  unfold Roster.start
  split
  · simp only [owned]
    omega
  · rename_i settings _
    have hmembers := balance_buildMembers settings paired_registrations host
    unfold Roster.build
    split
    · simp only [owned]
      omega
    · split
      · simp only [owned]
        omega
      · exact hmembers

/-- The only name in a new roster is that of the collector that can be built. -/
theorem names_sublist_of_start {document : Option String} {host : Host}
    {roster : Roster (GpuCollector Session)}
    (h : (Roster.start document registrations host).outcome = .ok roster) :
    roster.names.Sublist [GpuCollector.collectorName] := by
  unfold Roster.start at h
  split at h
  · cases h
  · exact Roster.names_sublist_of_build h

namespace Bench

variable {τ : Type} [Sink τ]

/-- Drops one thing that is held. -/
def release (bench : Bench) : Holding → Bench
  | .library => bench.holdLibrary bench.host none
  | .collector => bench.holdCollector bench.host none
  | .roster => bench.holdRoster bench.host none

/-- What can be done on a bench. -/
inductive Move (τ : Type) where
  /-- A request is answered. -/
  | ask (request : Request τ)
  /-- One thing that is held is dropped. -/
  | release (holding : Holding)

/-- The bench after a move. -/
def move (bench : Bench) : Move τ → Bench
  | .ask request => (bench.answer request).2
  | .release holding => bench.release holding

/-- The bench after some moves. -/
def moveAll (bench : Bench) (moves : List (Move τ)) : Bench := moves.foldl move bench

/-- The sessions that are open are those of the things that are held. -/
structure Balanced (bench : Bench) : Prop where
  /-- A session belongs to the library, to the collector and to each member of the roster. -/
  ledger : bench.host.balance = bench.sessions
  /-- The only member that a roster can have is the collector that can be built. -/
  names : ∀ roster, bench.roster = some roster →
    roster.names.Sublist [GpuCollector.collectorName]

/-- Nothing is held on a new bench. -/
theorem balanced_start (script : Script) : (Bench.start script).Balanced :=
  ⟨rfl, fun _ h => by cases h⟩

section Hold

variable {bench : Bench} {host : Host}

/-- A new library is held in place of the old one. -/
theorem balanced_holdLibrary {library : Option Session}
    (h : host.balance = bench.sessions + library.toList.length)
    (hn : ∀ roster, bench.roster = some roster →
      roster.names.Sublist [GpuCollector.collectorName]) :
    (bench.holdLibrary host library).Balanced := by
  refine ⟨?_, hn⟩
  simp only [holdLibrary, sessions, rosterSessions, Host.balance_close] at h ⊢
  omega

/-- A new collector is held in place of the old one. -/
theorem balanced_holdCollector {collector : Option (GpuCollector Session)}
    (h : host.balance = bench.sessions + collector.toList.length)
    (hn : ∀ roster, bench.roster = some roster →
      roster.names.Sublist [GpuCollector.collectorName]) :
    (bench.holdCollector host collector).Balanced := by
  refine ⟨?_, hn⟩
  simp only [holdCollector, sessions, rosterSessions, Host.balance_close] at h ⊢
  omega

/-- A new roster is held in place of the old one. -/
theorem balanced_holdRoster {outcome : Except Failure (Roster (GpuCollector Session))}
    (h : host.balance = bench.sessions + owned (fun roster => roster.members.length) outcome)
    (hn : ∀ roster, outcome = .ok roster → roster.names.Sublist [GpuCollector.collectorName]) :
    (bench.holdRoster host outcome.toOption).Balanced := by
  constructor
  · simp only [holdRoster, sessions, rosterSessions, Host.balance_close] at h ⊢
    cases outcome with
    | error failure =>
      simp only [owned, Except.toOption, Option.elim_none] at h ⊢
      omega
    | ok roster =>
      simp only [owned, Except.toOption, Option.elim_some] at h ⊢
      omega
  · intro roster hr
    cases outcome with
    | error failure => cases hr
    | ok roster' =>
      cases hr
      exact hn roster rfl

end Hold

namespace Balanced

variable {bench : Bench}

/-- Dropping a thing closes what belonged to it. -/
theorem release (h : bench.Balanced) (holding : Holding) : (bench.release holding).Balanced := by
  have hledger : bench.host.balance = bench.sessions + (0 : Nat) := by
    rw [h.ledger]
    omega
  cases holding with
  | library => exact balanced_holdLibrary hledger h.names
  | collector => exact balanced_holdCollector hledger h.names
  | roster =>
    have hnone : ∀ roster : Roster (GpuCollector Session),
        Except.error Failure.noDevices = .ok roster →
          roster.names.Sublist [GpuCollector.collectorName] := by
      intro roster hr
      cases hr
    exact balanced_holdRoster hledger hnone

/-- The ledger stays even, whatever is asked. -/
theorem answer (h : bench.Balanced) (request : Request τ) : (bench.answer request).2.Balanced := by
  have hledger := h.ledger
  cases request with
  | rescript script => exact ⟨h.ledger, h.names⟩
  | openLibrary =>
    have hopen := bench.host.balance_openSession
    refine balanced_holdLibrary ?_ h.names
    rw [length_toList_toOption]
    omega
  | query queries =>
    rw [Bench.answer]
    split <;> exact h
  | openCollector =>
    have hbuilt := bench.host.balance_openCollector defaultNamespace none
    refine balanced_holdCollector ?_ h.names
    rw [length_toList_toOption]
    omega
  | adopt metricNamespace =>
    rw [Bench.answer]
    split
    · exact h.release .collector
    · rename_i session hs
      have hadopt := bench.host.balance_adopt session metricNamespace none
      refine balanced_holdCollector ?_ h.names
      rw [length_toList_toOption]
      simp only [sessions, rosterSessions, hs, Option.toList_some, Option.toList_none,
        List.length_singleton, List.length_nil] at hledger ⊢
      omega
  | update sink =>
    rw [Bench.answer]
    split <;> exact h
  | buildRoster document =>
    have hbuilt := balance_start document bench.host
    refine balanced_holdRoster ?_ fun _ hr => names_sublist_of_start hr
    omega
  | scrape sink clock =>
    rw [Bench.answer]
    split <;> exact h
  | drop => exact ((h.release .library).release .collector).release .roster

/-- The ledger is even after any moves. -/
theorem moveAll (h : bench.Balanced) (moves : List (Move τ)) : (bench.moveAll moves).Balanced := by
  induction moves generalizing bench with
  | nil => exact h
  | cons move rest ih =>
    refine ih ?_
    cases move with
    | ask request => exact h.answer request
    | release holding => exact h.release holding

end Balanced

/-- How many of the things that own a session are held: a library, a collector, and a roster with
the collector in it. -/
def holders (bench : Bench) : Nat :=
  bench.library.isSome.toNat + bench.collector.isSome.toNat +
    (bench.roster.any fun roster => roster.names.contains GpuCollector.collectorName).toNat

/-- On an even ledger each of these things owns one session. -/
theorem Balanced.sessions_eq_holders {bench : Bench} (h : bench.Balanced) :
    bench.sessions = bench.holders := by
  have htoNat {α : Type} (held : Option α) : held.toList.length = held.isSome.toNat := by
    cases held <;> rfl
  have hroster : bench.rosterSessions = (bench.roster.any fun roster =>
      roster.names.contains GpuCollector.collectorName).toNat := by
    rw [rosterSessions]
    cases hr : bench.roster with
    | none => rfl
    | some roster =>
      have hlength : roster.members.length = roster.names.length := by
        rw [Roster.names, List.length_map]
      have hnames := h.names roster hr
      simp only [Option.elim_some, Option.any_some, hlength]
      generalize roster.names = names at hnames ⊢
      cases hnames with
      | cons _ hrest =>
        obtain rfl := List.sublist_nil.mp hrest
        rfl
      | cons_cons _ hrest =>
        obtain rfl := List.sublist_nil.mp hrest
        rfl
  rw [sessions, holders, htoNat, htoNat, hroster]

/-- After any moves the library was opened as often more than closed as things are held that own
a session. -/
theorem balance_moveAll (script : Script) (moves : List (Move τ)) :
    let bench := (Bench.start script).moveAll moves
    let dropped := bench.answer (.drop : Request τ)
    (bench.host.opened : Int) - bench.host.closed = bench.holders ∧
    bench.host.closed ≤ bench.host.opened ∧
    (bench.library = none → bench.collector = none → bench.roster = none →
      bench.host.opened = bench.host.closed) ∧
    dropped.2.holders = 0 ∧
    dropped.2.host.opened = bench.host.opened ∧
    dropped.2.host.closed = bench.host.opened ∧
    dropped.1 = .ledger bench.host.opened bench.host.opened := by
  have heven := (balanced_start script).moveAll moves
  have hdropped := heven.answer (.drop : Request τ)
  intro bench dropped
  have hledger : (bench.host.opened : Int) - bench.host.closed = bench.holders := by
    rw [← heven.sessions_eq_holders, ← heven.ledger]
    rfl
  have hnone : dropped.2.holders = 0 := rfl
  have hopened : dropped.2.host.opened = bench.host.opened := rfl
  have hclosed : dropped.2.host.closed = bench.host.opened := by
    have hd : (dropped.2.host.opened : Int) - dropped.2.host.closed = dropped.2.holders := by
      rw [← hdropped.sessions_eq_holders, ← hdropped.ledger]
      rfl
    omega
  refine ⟨hledger, ?_, ?_, hnone, hopened, hclosed, ?_⟩
  · omega
  · intro hl hc hr
    have hz : bench.holders = 0 := by
      rw [holders, hl, hc, hr]
      rfl
    omega
  · have hresponse : dropped.1 = .ledger dropped.2.host.opened dropped.2.host.closed := rfl
    rw [hresponse, hopened, hclosed]

end Bench

end Vendor

end GpuTelemetry
