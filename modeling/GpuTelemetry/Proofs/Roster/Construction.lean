import GpuTelemetry.Proofs.Metric.Wording
import GpuTelemetry.Proofs.Roster.Names
import GpuTelemetry.Proofs.Settings.Overrides

/-!
# Which factories are called

Factories are told apart from what they do by a journal: a journaled registration works like the
original one and also writes down each of its calls. Building with a journal changes nothing else,
so the journal tells which factories are called, with what, and in which order. Names and namespace
are checked before the first call. After that each registration is attempted once: the settings
decide whether its factory is called, and what came of it is told in one event of the roster's own.
-/

namespace GpuTelemetry

/-- A name that is listed is enabled as it is listed, any other one by its default. -/
theorem Settings.isEnabled_iff (settings : Settings) (name : String) (byDefault : Bool) :
    settings.isEnabled name byDefault = true ↔
      (name, true) ∈ settings.overrides.entries ∨
        (∀ enabled, (name, enabled) ∉ settings.overrides.entries) ∧ byDefault = true := by
  simp only [Overrides.mem_entries_iff, isEnabled]
  cases hf : settings.overrides.find? name with
  | none => simp
  | some enabled => simp

/-- One call of a factory. -/
structure Call (ω κ : Type) where
  /-- The name of the registration. -/
  name : String
  /-- What the factory was given. -/
  context : Context
  /-- The world in which it was called. -/
  world : ω
  /-- What it built. -/
  built : Built Failure ω κ

/-- The member that came of the call. -/
def Call.member? {ω κ : Type} (call : Call ω κ) : Option (Member κ) :=
  call.built.outcome.toOption.map (Member.mk call.name)

namespace Registration

variable {ω κ : Type}

/-- The registration with a factory that writes down its calls. -/
def journaled (registration : Registration ω κ) :
    Registration (ω × List (Call ω κ)) κ where
  name := registration.name
  enabledByDefault := registration.enabledByDefault
  factory context world :=
    let built := registration.factory context world.1
    ⟨built.outcome, built.log,
      (built.world, world.2 ++ [⟨registration.name, context, world.1, built⟩])⟩

private theorem map_name_journaled (registrations : List (Registration ω κ)) :
    (registrations.map journaled).map name = registrations.map name := by
  rw [List.map_map]
  rfl

/-- A registration and the call of its factory, if it was called. -/
structure Attempt (ω κ : Type) where
  /-- The registration. -/
  registration : Registration ω κ
  /-- The call. -/
  call? : Option (Call ω κ)

namespace Attempt

variable (attempt : Attempt ω κ)

/-- The member that came of it. -/
def member? : Option (Member κ) := attempt.call?.bind Call.member?

/-- What the roster says about it. -/
def remark : Occurrence :=
  match attempt.call? with
  | none => .collectorDisabled attempt.registration.name
  | some call =>
    match call.built.outcome with
    | .ok _ => .collectorEnabled attempt.registration.name
    | .error failure => .collectorNotCreated attempt.registration.name failure.message

/-- The events of the attempt: those of the factory, if it was called, then the remark. -/
def events : List Event :=
  (attempt.call?.elim [] fun call => call.built.log) ++ [.unspanned attempt.remark]

/-- The world that it leaves. -/
def worldAfter (world : ω) : ω := attempt.call?.elim world fun call => call.built.world

/-- The attempt is made as the settings say. -/
structure Follows (settings : Settings) (attempt : Attempt ω κ) : Prop where
  /-- The factory is called if the registration is enabled. -/
  called : attempt.call?.isSome =
    settings.isEnabled attempt.registration.name attempt.registration.enabledByDefault
  /-- The call is one of this factory, in the span of its name and with the chosen namespace. -/
  factory : ∀ call ∈ attempt.call?,
    call.name = attempt.registration.name ∧
    call.context = ⟨settings.metricNamespace, attempt.registration.name⟩ ∧
    call.built = attempt.registration.factory call.context call.world

end Attempt

/-- The call of the factory. -/
def call (settings : Settings) (registration : Registration ω κ) (world : ω) : Call ω κ :=
  let context : Context := ⟨settings.metricNamespace, registration.name⟩
  ⟨registration.name, context, world, registration.factory context world⟩

/-- The attempt at a registration. -/
def attempt (settings : Settings) (registration : Registration ω κ) (world : ω) : Attempt ω κ :=
  ⟨registration,
    if settings.isEnabled registration.name registration.enabledByDefault then
      some (registration.call settings world)
    else none⟩

/-- The attempts at some registrations, one after the other. -/
def attempts (settings : Settings) : List (Registration ω κ) → ω → List (Attempt ω κ)
  | [], _ => []
  | registration :: rest, world =>
    let first := registration.attempt settings world
    first :: attempts settings rest (first.worldAfter world)

section One

variable {settings : Settings} {registration : Registration ω κ}

/-- An enabled registration is attempted by a call of its factory. -/
theorem attempt_of_enabled
    (h : settings.isEnabled registration.name registration.enabledByDefault = true) (world : ω) :
    registration.attempt settings world =
      ⟨registration, some (registration.call settings world)⟩ := by
  rw [attempt, if_pos h]

private theorem attempt_of_not_enabled
    (h : ¬ settings.isEnabled registration.name registration.enabledByDefault = true)
    (world : ω) : registration.attempt settings world = ⟨registration, none⟩ := by
  rw [attempt, if_neg h]

variable (settings registration) (world : ω)

private theorem follows_attempt : (registration.attempt settings world).Follows settings := by
  by_cases h : settings.isEnabled registration.name registration.enabledByDefault = true
  · rw [attempt_of_enabled h]
    refine ⟨h.symm, ?_⟩
    intro call hcall
    cases hcall
    exact ⟨rfl, rfl, rfl⟩
  · rw [attempt_of_not_enabled h]
    refine ⟨(Bool.eq_false_iff.mpr h).symm, ?_⟩
    intro call hcall
    cases hcall

/-- Building does what the attempt at the first registration comes to, then goes on with the
others in the world that it leaves. -/
theorem buildMembers_cons (rest : List (Registration ω κ)) :
    let first := registration.attempt settings world
    let later := buildMembers settings rest (first.worldAfter world)
    buildMembers settings (registration :: rest) world =
      (first.member?.toList ++ later.1, first.events ++ later.2.1, later.2.2) := by
  intro first later
  by_cases h : settings.isEnabled registration.name registration.enabledByDefault = true
  · simp only [first, later, attempt_of_enabled h, buildMembers, if_pos h, Attempt.member?,
      Attempt.events, Attempt.remark, Attempt.worldAfter, Call.member?, call, Option.bind_some,
      Option.elim_some, List.append_assoc, List.singleton_append]
    cases (registration.factory ⟨settings.metricNamespace, registration.name⟩ world).outcome with
    | ok collector => rfl
    | error failure => rfl
  · simp only [first, later, attempt_of_not_enabled h, buildMembers, if_neg h]
    rfl

/-- With a journal an attempt comes to the same, and its call is written down. -/
theorem attempt_journaled (journal : List (Call ω κ)) :
    let original := registration.attempt settings world
    let kept := registration.journaled.attempt settings (world, journal)
    kept.member? = original.member? ∧ kept.events = original.events ∧
      kept.worldAfter (world, journal) =
        (original.worldAfter world, journal ++ original.call?.toList) := by
  intro original kept
  by_cases h : settings.isEnabled registration.name registration.enabledByDefault = true
  · have hkept : settings.isEnabled registration.journaled.name
        registration.journaled.enabledByDefault = true := h
    simp only [original, kept, attempt_of_enabled h, attempt_of_enabled hkept]
    exact ⟨rfl, rfl, rfl⟩
  · have hkept : ¬ settings.isEnabled registration.journaled.name
        registration.journaled.enabledByDefault = true := h
    simp only [original, kept, attempt_of_not_enabled h, attempt_of_not_enabled hkept]
    exact ⟨rfl, rfl, Prod.ext rfl (List.append_nil journal).symm⟩

end One

section All

variable (settings : Settings) (registrations : List (Registration ω κ)) (world : ω)

/-- Every registration is attempted once, in order. -/
theorem map_registration_attempts :
    (attempts settings registrations world).map Attempt.registration = registrations := by
  induction registrations generalizing world with
  | nil => rfl
  | cons registration rest ih =>
    have hrest := ih ((registration.attempt settings world).worldAfter world)
    exact congrArg (registration :: ·) hrest

/-- Every attempt is made as the settings say. -/
theorem follows_of_mem_attempts :
    ∀ attempt ∈ attempts settings registrations world, attempt.Follows settings := by
  induction registrations generalizing world with
  | nil => exact fun _ hm => absurd hm List.not_mem_nil
  | cons registration rest ih =>
    exact List.forall_mem_cons.mpr ⟨follows_attempt settings registration world, ih _⟩

/-- Building gives the members and the events of the attempts. -/
theorem buildMembers_eq_attempts :
    (buildMembers settings registrations world).1 =
      (attempts settings registrations world).filterMap Attempt.member? ∧
    (buildMembers settings registrations world).2.1 =
      (attempts settings registrations world).flatMap Attempt.events := by
  induction registrations generalizing world with
  | nil => exact ⟨rfl, rfl⟩
  | cons registration rest ih =>
    obtain ⟨hmembers, hlog⟩ := ih ((registration.attempt settings world).worldAfter world)
    rw [buildMembers_cons, attempts]
    dsimp only
    rw [hmembers, hlog, List.filterMap_cons, List.flatMap_cons]
    cases (registration.attempt settings world).member? <;> exact ⟨rfl, rfl⟩

/-- A journal takes the calls and changes nothing else. -/
theorem buildMembers_journaled (journal : List (Call ω κ)) :
    let original := buildMembers settings registrations world
    buildMembers settings (registrations.map journaled) (world, journal) =
      (original.1, original.2.1, original.2.2,
        journal ++ (attempts settings registrations world).filterMap Attempt.call?) := by
  induction registrations generalizing world journal with
  | nil => exact congrArg (([], [], world, ·)) (List.append_nil journal).symm
  | cons registration rest ih =>
    obtain ⟨hmember, hevents, hworld⟩ :=
      attempt_journaled settings registration world journal
    dsimp only at hmember hevents hworld ih ⊢
    rw [List.map_cons, buildMembers_cons, buildMembers_cons, attempts]
    dsimp only
    rw [hmember, hevents, hworld, ih, List.filterMap_cons]
    cases (registration.attempt settings world).call? with
    | none => simp
    | some call => simp

end All

/-- A member comes of a call of its registration's factory. -/
theorem Attempt.Follows.exists_factory {settings : Settings} {attempt : Attempt ω κ}
    (h : attempt.Follows settings) {member : Member κ} (hm : attempt.member? = some member) :
    ∃ context world,
      (attempt.registration.factory context world).outcome = .ok member.collector := by
  obtain ⟨call, hcall, hbuilt⟩ := Option.bind_eq_some_iff.mp hm
  obtain ⟨-, -, hfactory⟩ := h.factory call hcall
  refine ⟨call.context, call.world, ?_⟩
  rw [← hfactory]
  unfold Call.member? at hbuilt
  cases ho : call.built.outcome with
  | error failure =>
    rw [ho] at hbuilt
    cases hbuilt
  | ok collector =>
    rw [ho] at hbuilt
    cases hbuilt
    rfl

/-- The factories of the enabled registrations are called, each once and in order. -/
theorem map_calls_of_follows {settings : Settings} {attempts : List (Attempt ω κ)}
    (h : ∀ attempt ∈ attempts, attempt.Follows settings) :
    (attempts.filterMap Attempt.call?).map (fun call => (call.name, call.context)) =
      ((attempts.map Attempt.registration).filter fun registration =>
          settings.isEnabled registration.name registration.enabledByDefault).map
        fun registration =>
          (registration.name, ⟨settings.metricNamespace, registration.name⟩) := by
  induction attempts with
  | nil => rfl
  | cons attempt rest ih =>
    obtain ⟨hfirst, hrest⟩ := List.forall_mem_cons.mp h
    have hcalled := hfirst.called
    rw [List.map_cons, List.filter_cons, ← hcalled, List.filterMap_cons]
    cases hc : attempt.call? with
    | none => exact ih hrest
    | some call =>
      obtain ⟨hname, hcontext, -⟩ := hfirst.factory call hc
      simp only [Option.isSome_some, if_true, List.map_cons, hname, hcontext, ih hrest]

end Registration

/-- The members have the names of the calls that built something. -/
theorem Call.map_name_members {ω κ : Type} (calls : List (Call ω κ)) :
    (calls.filterMap Call.member?).map Member.name =
      (calls.filter fun call => call.built.outcome.isOk).map Call.name := by
  induction calls with
  | nil => rfl
  | cons call rest ih =>
    rw [List.filterMap_cons, List.filter_cons, Call.member?]
    cases call.built.outcome with
    | error failure => exact ih
    | ok collector => exact congrArg (call.name :: ·) ih

namespace Roster

variable {κ : Type}

/-- A roster has its own two metrics in their words. -/
theorem create_eq (metricNamespace : String) :
    (create metricNamespace : Except Failure (Roster κ)) =
      ((Wording.duration.describe metricNamespace).bind fun duration =>
        (Wording.success.describe metricNamespace).bind fun success =>
          .ok ⟨duration, success, []⟩) :=
  rfl

/-- The two metrics of a roster are built in. -/
theorem builtIn_of_create {metricNamespace : String} {roster : Roster κ}
    (h : create metricNamespace = .ok roster) :
    roster.duration.1.BuiltIn ∧ roster.success.1.BuiltIn := by
  rw [create_eq] at h
  obtain ⟨duration, hd, h⟩ := Failure.of_bind_eq_ok h
  obtain ⟨success, hs, h⟩ := Failure.of_bind_eq_ok h
  cases h
  exact ⟨⟨.duration, Wording.duration_mem, Wording.sound_duration.describes hd⟩,
    .success, Wording.success_mem, Wording.sound_success.describes hs⟩

/-- A namespace that can be used makes a roster. -/
theorem create_of_usable {metricNamespace : String} (h : UsableNamespace metricNamespace) :
    ∃ roster : Roster κ, create metricNamespace = .ok roster := by
  obtain ⟨duration, hd⟩ := Wording.sound_duration.describe_of_usable h
  obtain ⟨success, hs⟩ := Wording.sound_success.describe_of_usable h
  rw [create_eq, hd, hs]
  exact ⟨_, rfl⟩

/-- Any other namespace makes a name that breaks the grammar, and the first is reported. -/
theorem create_of_not_usable {metricNamespace : String} (h : ¬ UsableNamespace metricNamespace) :
    (create metricNamespace : Except Failure (Roster κ)) =
      .error (.invalidDescriptor (Descriptor.Fault.badName
        (joinName metricNamespace "scrape" "collector_duration_seconds")).message) := by
  rw [create_eq, Wording.sound_duration.describe_of_not_usable h]
  rfl

section Build

variable {ω : Type} {settings : Settings} {registrations : List (Registration ω κ)}

/-- A repeated name is refused first. -/
theorem build_of_repeated {name : String}
    (h : Registration.firstRepeated? [] (registrations.map Registration.name) = some name)
    (world : ω) :
    build settings registrations world = ⟨.error (.duplicateCollector name), [], world⟩ := by
  rw [build, h]

/-- What keeps the roster from being made is told next. -/
theorem build_of_create_eq_error {failure : Failure}
    (h : Registration.firstRepeated? [] (registrations.map Registration.name) = none)
    (hc : (create settings.metricNamespace : Except Failure (Roster κ)) = .error failure)
    (world : ω) :
    build settings registrations world = ⟨.error failure, [], world⟩ := by
  rw [build, h]
  simp only [hc]

/-- Otherwise the members are built. -/
theorem build_of_create_eq_ok {roster : Roster κ}
    (h : Registration.firstRepeated? [] (registrations.map Registration.name) = none)
    (hc : create settings.metricNamespace = .ok roster) (world : ω) :
    let made := Registration.buildMembers settings registrations world
    build settings registrations world =
      ⟨.ok { roster with members := made.1 }, made.2.1, made.2.2⟩ := by
  rw [build, h]
  simp only [hc]

/-- If the names do not all differ, the first repeated one is refused and nothing is called. -/
theorem exists_build_of_not_nodup (h : ¬ (registrations.map Registration.name).Nodup) (world : ω) :
    ∃ before name after, registrations.map Registration.name = before ++ name :: after ∧
      before.Nodup ∧ name ∈ before ∧
      build settings registrations world = ⟨.error (.duplicateCollector name), [], world⟩ ∧
      build settings (registrations.map Registration.journaled) (world, []) =
        ⟨.error (.duplicateCollector name), [], (world, [])⟩ := by
  obtain ⟨before, name, after, hnames, hnodup, hname, hr⟩ :=
    Registration.exists_firstRepeated?_of_not_nodup h
  refine ⟨before, name, after, hnames, hnodup, hname, build_of_repeated hr world, ?_⟩
  rw [← Registration.map_name_journaled] at hr
  exact build_of_repeated hr (world, [])

section Distinct

variable (hn : (registrations.map Registration.name).Nodup)

include hn

/-- A namespace that cannot be used is refused, and nothing is called. -/
theorem exists_build_of_not_usable (hu : ¬ UsableNamespace settings.metricNamespace) (world : ω) :
    ∃ reason,
      build settings registrations world = ⟨.error (.invalidDescriptor reason), [], world⟩ ∧
      build settings (registrations.map Registration.journaled) (world, []) =
        ⟨.error (.invalidDescriptor reason), [], (world, [])⟩ := by
  have hc := create_of_not_usable (κ := κ) hu
  have hr := Registration.firstRepeated?_of_nodup hn
  refine ⟨_, build_of_create_eq_error hr hc world, ?_⟩
  rw [← Registration.map_name_journaled] at hr
  exact build_of_create_eq_error hr hc (world, [])

/-- In a namespace that can be used a roster is built out of the calls, with or without a
journal. -/
theorem exists_build_of_usable (hu : UsableNamespace settings.metricNamespace) (world : ω) :
    let attempts := Registration.attempts settings registrations world
    let calls := attempts.filterMap Registration.Attempt.call?
    let log := attempts.flatMap Registration.Attempt.events
    ∃ (roster : Roster κ) (left : ω), roster.members = calls.filterMap Call.member? ∧
      build settings registrations world = ⟨.ok roster, log, left⟩ ∧
      build settings (registrations.map Registration.journaled) (world, []) =
        ⟨.ok roster, log, (left, calls)⟩ := by
  intro attempts calls log
  obtain ⟨roster, hc⟩ := create_of_usable (κ := κ) hu
  obtain ⟨hmembers, hlog⟩ := Registration.buildMembers_eq_attempts settings registrations world
  have hr := Registration.firstRepeated?_of_nodup hn
  let made := Registration.buildMembers settings registrations world
  refine ⟨{ roster with members := made.1 }, made.2.2, ?_, ?_, ?_⟩
  · rw [List.filterMap_filterMap]
    exact hmembers
  · rw [build_of_create_eq_ok hr hc world, hlog]
  · rw [← Registration.map_name_journaled] at hr
    rw [build_of_create_eq_ok hr hc (world, []), Registration.buildMembers_journaled, hlog]
    rfl

end Distinct

/-- A journal changes nothing that a roster is built with or leaves. -/
theorem build_journaled (world : ω) :
    let built := build settings registrations world
    let kept := build settings (registrations.map Registration.journaled) (world, [])
    kept.outcome = built.outcome ∧ kept.log = built.log ∧ kept.world.1 = built.world := by
  intro built kept
  by_cases hn : (registrations.map Registration.name).Nodup
  · by_cases hu : UsableNamespace settings.metricNamespace
    · obtain ⟨roster, left, -, hbuilt, hkept⟩ := exists_build_of_usable hn hu world
      simp only [built, kept, hbuilt, hkept, and_self]
    · obtain ⟨reason, hbuilt, hkept⟩ := exists_build_of_not_usable hn hu world
      simp only [built, kept, hbuilt, hkept, and_self]
  · obtain ⟨_, name, _, -, -, -, hbuilt, hkept⟩ :=
      @exists_build_of_not_nodup κ ω settings registrations hn world
    simp only [built, kept, hbuilt, hkept, and_self]

/-- A roster that was built has the metrics of its namespace and the members of the attempts. -/
theorem of_build_eq_ok {world : ω} {roster : Roster κ}
    (h : (build settings registrations world).outcome = .ok roster) :
    ∃ base : Roster κ, create settings.metricNamespace = .ok base ∧
      roster = { base with
        members := (Registration.attempts settings registrations world).filterMap
          Registration.Attempt.member? } := by
  cases hr : Registration.firstRepeated? [] (registrations.map Registration.name) with
  | some name =>
    rw [build_of_repeated hr] at h
    cases h
  | none =>
    cases hc : (create settings.metricNamespace : Except Failure (Roster κ)) with
    | error failure =>
      rw [build_of_create_eq_error hr hc] at h
      cases h
    | ok base =>
      rw [build_of_create_eq_ok hr hc] at h
      cases h
      refine ⟨base, rfl, ?_⟩
      rw [(Registration.buildMembers_eq_attempts settings registrations world).1]

/-- Every member of a roster was built by the factory of a registration. -/
theorem exists_factory_of_mem_members {world : ω} {roster : Roster κ}
    (h : (build settings registrations world).outcome = .ok roster) {member : Member κ}
    (hm : member ∈ roster.members) :
    ∃ registration ∈ registrations, ∃ context world,
      (registration.factory context world).outcome = .ok member.collector := by
  obtain ⟨base, -, rfl⟩ := of_build_eq_ok h
  obtain ⟨attempt, ha, hm⟩ := List.mem_filterMap.mp hm
  have hfollows := Registration.follows_of_mem_attempts settings registrations world attempt ha
  refine ⟨attempt.registration, ?_, hfollows.exists_factory hm⟩
  rw [← Registration.map_registration_attempts settings registrations world]
  exact List.mem_map_of_mem ha

end Build

variable {ω : Type} (settings : Settings) (registrations : List (Registration ω κ)) (world : ω)

/-- Building refuses a repeated name, then the namespace, and does nothing; otherwise it attempts
each registration once and logs each outcome. -/
theorem build_attempts :
    let names := registrations.map Registration.name
    let built := build settings registrations world
    let kept := build settings (registrations.map Registration.journaled) (world, [])
    let calls := kept.world.2
    (kept.outcome = built.outcome ∧ kept.log = built.log ∧ kept.world.1 = built.world) ∧
    (¬ names.Nodup →
      (∃ before name after, names = before ++ name :: after ∧ before.Nodup ∧ name ∈ before ∧
        built.outcome = .error (.duplicateCollector name)) ∧
      calls = [] ∧ built.log = [] ∧ built.world = world) ∧
    (names.Nodup → ¬ UsableNamespace settings.metricNamespace →
      (∃ reason, built.outcome = .error (.invalidDescriptor reason)) ∧
      calls = [] ∧ built.log = [] ∧ built.world = world) ∧
    (names.Nodup → UsableNamespace settings.metricNamespace →
      ∃ (roster : Roster κ) (attempts : List (Registration.Attempt ω κ)),
        built.outcome = .ok roster ∧
        attempts.map Registration.Attempt.registration = registrations ∧
        (∀ attempt ∈ attempts, attempt.Follows settings) ∧
        calls = attempts.filterMap Registration.Attempt.call? ∧
        calls.map (fun call => (call.name, call.context)) =
          ((registrations.filter fun registration =>
              settings.isEnabled registration.name registration.enabledByDefault).map
            fun registration =>
              (registration.name, ⟨settings.metricNamespace, registration.name⟩)) ∧
        roster.members = calls.filterMap Call.member? ∧
        roster.names = (calls.filter fun call => call.built.outcome.isOk).map Call.name ∧
        roster.names.Nodup ∧
        built.log = attempts.flatMap Registration.Attempt.events) ∧
    ∀ name byDefault, settings.isEnabled name byDefault = true ↔
      (name, true) ∈ settings.overrides.entries ∨
        (∀ enabled, (name, enabled) ∉ settings.overrides.entries) ∧ byDefault = true := by
  intro names built kept calls
  refine ⟨build_journaled world, ?_, ?_, ?_, settings.isEnabled_iff⟩
  · intro hn
    obtain ⟨before, name, after, hnames, hnodup, hname, hbuilt, hkept⟩ :=
      exists_build_of_not_nodup hn world
    refine ⟨⟨before, name, after, hnames, hnodup, hname, ?_⟩, ?_, ?_, ?_⟩
    · exact congrArg Built.outcome hbuilt
    · exact congrArg (fun b => b.world.2) hkept
    · exact congrArg Built.log hbuilt
    · exact congrArg Built.world hbuilt
  · intro hn hu
    obtain ⟨reason, hbuilt, hkept⟩ := exists_build_of_not_usable hn hu world
    refine ⟨⟨reason, ?_⟩, ?_, ?_, ?_⟩
    · exact congrArg Built.outcome hbuilt
    · exact congrArg (fun b => b.world.2) hkept
    · exact congrArg Built.log hbuilt
    · exact congrArg Built.world hbuilt
  · intro hn hu
    obtain ⟨roster, left, hmembers, hbuilt, hkept⟩ := exists_build_of_usable hn hu world
    have hok : built.outcome = .ok roster := congrArg Built.outcome hbuilt
    have hcalls : calls = (Registration.attempts settings registrations world).filterMap
        Registration.Attempt.call? := congrArg (fun b => b.world.2) hkept
    have hregistrations := Registration.map_registration_attempts settings registrations world
    have hfollows := Registration.follows_of_mem_attempts settings registrations world
    have hmade := Registration.map_calls_of_follows hfollows
    rw [hregistrations, ← hcalls] at hmade
    rw [← hcalls] at hmembers
    have hnames : roster.names = _ :=
      (congrArg (List.map Member.name) hmembers).trans (Call.map_name_members calls)
    exact ⟨roster, _, hok, hregistrations, hfollows, hcalls, hmade, hmembers, hnames,
      nodup_names_of_build hok, congrArg Built.log hbuilt⟩

/-- A registration that counts the calls of its factory, which may fail. -/
def counting (name : String) (enabledByDefault : Bool) (failure : Option Failure) :
    Registration Nat Nat :=
  ⟨name, enabledByDefault, fun _ calls => ⟨failure.elim (.ok calls) .error, [], calls + 1⟩⟩

/-- Registrations of which one fails; two of the defaults are overridden. -/
def countings : List (Registration Nat Nat) :=
  [counting "gpu" true none, counting "fan" true none, counting "net" true (some .noDevices),
    counting "disk" false none]

/-- Settings that leave out a collector and take in another one. -/
def countingSettings : Settings := ⟨"node", .ofList [("fan", false), ("disk", true)]⟩

/-- A repeated name and a namespace that begins with a digit are refused; otherwise the enabled
factories are called, and one of them fails. -/
theorem build_attempts_counting :
    (¬ ["gpu", "gpu"].Nodup ∧
      (build .default [counting "gpu" true none, counting "gpu" true none] 0).log = []) ∧
    (["gpu"].Nodup ∧ ¬ UsableNamespace "1" ∧
      ∃ reason, (build ⟨"1", .empty⟩ [counting "gpu" true none] 0).outcome =
        .error (.invalidDescriptor reason)) ∧
    ((countings.map Registration.name).Nodup ∧
      UsableNamespace countingSettings.metricNamespace ∧
      let built := build countingSettings countings 0
      let kept := build countingSettings (countings.map Registration.journaled) (0, [])
      (∃ roster, built.outcome = .ok roster ∧
        roster.members.map (fun member => (member.name, member.collector)) =
          [("gpu", 0), ("disk", 2)]) ∧
      kept.world.2.map (fun call => (call.name, call.context)) =
        [("gpu", ⟨"node", "gpu"⟩), ("net", ⟨"node", "net"⟩), ("disk", ⟨"node", "disk"⟩)] ∧
      built.log.map (fun event => (event.occurrence.message, event.span)) =
        [("collector enabled", none), ("collector disabled", none),
          ("failed to create collector", none), ("collector enabled", none)]) := by
  have htwice : ¬ ["gpu", "gpu"].Nodup := by decide
  have honce : ["gpu"].Nodup := by decide
  have hdigit : ¬ UsableNamespace "1" := by
    rintro (h | h)
    · exact absurd h (by decide)
    · exact absurd h (by decide)
  have hnames : (countings.map Registration.name).Nodup := by decide
  have hnode : UsableNamespace countingSettings.metricNamespace := Or.inr (by decide)
  obtain ⟨-, hrepeated, -⟩ :=
    build_attempts .default [counting "gpu" true none, counting "gpu" true none] 0
  obtain ⟨-, -, hunusable, -⟩ := build_attempts ⟨"1", .empty⟩ [counting "gpu" true none] 0
  obtain ⟨-, -, -, husable, -⟩ := build_attempts countingSettings countings 0
  obtain ⟨roster, attempts, hok, -, -, -, hcalls, -⟩ := husable hnames hnode
  have hmembers : (build countingSettings countings 0).outcome.toOption.map (fun roster =>
      roster.members.map fun member => (member.name, member.collector)) =
        some [("gpu", 0), ("disk", 2)] := by
    decide +kernel
  rw [hok] at hmembers
  refine ⟨⟨htwice, (hrepeated htwice).2.2.1⟩, ⟨honce, hdigit, (hunusable honce hdigit).1⟩, hnames,
    hnode, ⟨roster, hok, Option.some.inj hmembers⟩, hcalls.trans ?_, ?_⟩
  · decide +kernel
  · decide +kernel

end Roster

end GpuTelemetry
