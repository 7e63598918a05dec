import GpuTelemetry.Device.Bench
import GpuTelemetry.Proofs.Metric.Namespaces
import GpuTelemetry.Proofs.Roster.Construction
import GpuTelemetry.Vendor.Host

/-!
# One language of namespaces

A collector and a roster make their metric names apart from each other, six here and two there, and
both take the same namespaces: the plain ones. In these the eight names differ and are the namespace
in front of fixed words; any other namespace is refused on account of the first name. So a factory
that hands its namespace on to a collector cannot fail for a name once the roster has passed.
-/

namespace GpuTelemetry

namespace Registration

variable {ω L : Type}

/-- The factory opens a library, unless that fails, and makes a collector over it in the namespace
that it was given. -/
def PassesOn (registration : Registration ω (GpuCollector L))
    (openLibrary : Context → ω → Except Failure L) : Prop :=
  ∀ context world, (registration.factory context world).outcome =
    (openLibrary context world).bind fun library =>
      GpuCollector.create library context.metricNamespace (some context.collector)

/-- In a namespace that can be used such a factory fails only if the library does not open. -/
theorem PassesOn.outcome_eq_error_iff {registration : Registration ω (GpuCollector L)}
    {openLibrary : Context → ω → Except Failure L} (h : registration.PassesOn openLibrary)
    {context : Context} (hu : UsableNamespace context.metricNamespace) (world : ω)
    (failure : Failure) :
    (registration.factory context world).outcome = .error failure ↔
      openLibrary context world = .error failure := by
  rw [h context world]
  cases openLibrary context world with
  | error cause => simp only [Except.bind, Except.error.injEq]
  | ok library =>
    obtain ⟨collector, hc⟩ :=
      GpuCollector.exists_create_of_usable library (some context.collector) hu
    simp only [Except.bind, hc, reduceCtorEq]

end Registration

/-- The vendor's factory hands its namespace on. -/
theorem Vendor.passesOn_of_mem_registrations
    {registration : Registration Vendor.Host (GpuCollector Vendor.Session)}
    (h : registration ∈ Vendor.registrations) :
    registration.PassesOn fun _ host => host.openSession.outcome.mapError .initialization := by
  obtain rfl := List.mem_singleton.mp h
  intro context host
  dsimp only [Vendor.Host.openCollector]
  cases host.openSession.outcome with
  | error cause => rfl
  | ok session =>
    dsimp only [Vendor.Host.adopt]
    cases hc : GpuCollector.create session context.metricNamespace (some context.collector) with
    | error failure => exact hc.symm
    | ok collector => exact hc.symm

namespace Roster

variable {κ : Type}

/-- The two metrics of a roster have the full names of their words. -/
theorem names_of_create {metricNamespace : String} {roster : Roster κ}
    (h : create metricNamespace = .ok roster) :
    roster.duration.1.name = Wording.duration.fullName metricNamespace ∧
      roster.success.1.name = Wording.success.fullName metricNamespace := by
  rw [create_eq] at h
  obtain ⟨duration, hd, h⟩ := Failure.of_bind_eq_ok h
  obtain ⟨success, hs, h⟩ := Failure.of_bind_eq_ok h
  cases h
  exact ⟨Wording.sound_duration.name_of_describe hd, Wording.sound_success.name_of_describe hs⟩

/-- A roster that was built has the metrics of its namespace. -/
theorem names_of_build {ω : Type} {settings : Settings}
    {registrations : List (Registration ω κ)} {world : ω} {roster : Roster κ}
    (h : (build settings registrations world).outcome = .ok roster) :
    roster.duration.1.name = Wording.duration.fullName settings.metricNamespace ∧
      roster.success.1.name = Wording.success.fullName settings.metricNamespace := by
  obtain ⟨base, hc, rfl⟩ := of_build_eq_ok h
  obtain ⟨hduration, hsuccess⟩ := names_of_create hc
  exact ⟨hduration, hsuccess⟩

/-- A roster is built only in a namespace that can be used. -/
theorem usable_of_build {ω : Type} {settings : Settings}
    {registrations : List (Registration ω κ)} {world : ω}
    (h : (build settings registrations world).outcome.isOk = true) :
    UsableNamespace settings.metricNamespace := by
  by_contra hu
  cases hb : (build settings registrations world).outcome with
  | error failure =>
    rw [hb] at h
    cases h
  | ok roster =>
    obtain ⟨base, hc, -⟩ := of_build_eq_ok hb
    rw [create_of_not_usable hu] at hc
    cases hc

/-- The fixed ends of the names: two of a roster, then the six of a collector. -/
def nameEnds : List String :=
  ["scrape_collector_duration_seconds", "scrape_collector_success", "gpu_utilisation_percentage",
    "gpu_temperature_celsius", "gpu_memory_total_bytes", "gpu_memory_used_bytes",
    "gpu_memory_free_bytes", "gpu_info"]

private theorem map_fullName_all (metricNamespace : String) :
    Wording.all.map (Wording.fullName metricNamespace) = nameEnds.map fun nameEnd =>
      if metricNamespace = "" then nameEnd else metricNamespace ++ "_" ++ nameEnd := by
  have hends : nameEnds = Wording.all.map Wording.stem := by decide +kernel
  rw [hends, List.map_map]
  refine List.map_congr_left fun w _ => ?_
  rw [Wording.fullName, namespacePrefix, Function.comp_apply]
  split
  · exact String.empty_append
  · rfl

/-- The complaint about a name that breaks the grammar. -/
def nameComplaint (name : String) : Failure :=
  .invalidDescriptor ("Error: '" ++ name ++ "' is not a valid metric name")

section Unusable

variable {metricNamespace : String} (h : ¬ UsableNamespace metricNamespace)

include h

/-- A namespace that cannot be used is not empty, so it stands in front of every name. -/
theorem joinName_of_not_usable {subsystem name : String} (hs : subsystem ≠ "") (hn : name ≠ "") :
    joinName metricNamespace subsystem name =
      metricNamespace ++ "_" ++ (subsystem ++ "_" ++ name) := by
  have hne : metricNamespace ≠ "" := fun he => h (Or.inl he)
  rw [joinName_eq metricNamespace hs hn, namespacePrefix, if_neg hne]

private theorem create_complains {L : Type} (library : L) (span : Option String) :
    GpuCollector.create library metricNamespace span =
      .error (nameComplaint (metricNamespace ++ "_gpu_utilisation_percentage")) := by
  rw [GpuCollector.create_of_not_usable library span h,
    joinName_of_not_usable h (by decide) (by decide), String.append_assoc]
  rfl

private theorem roster_create_complains : (create metricNamespace : Except Failure (Roster κ)) =
    .error (nameComplaint (metricNamespace ++ "_scrape_collector_duration_seconds")) := by
  rw [create_of_not_usable h, joinName_of_not_usable h (by decide) (by decide),
    String.append_assoc]
  rfl

end Unusable

section Empty

variable {ω : Type} {settings : Settings} (world : ω)

/-- Without registrations there is nothing but the two metrics that can be refused. -/
theorem build_nil_complains (h : ¬ UsableNamespace settings.metricNamespace) :
    build settings ([] : List (Registration ω κ)) world =
      ⟨.error (nameComplaint
        (settings.metricNamespace ++ "_scrape_collector_duration_seconds")), [], world⟩ := by
  have hnone : Registration.firstRepeated? []
      (([] : List (Registration ω κ)).map Registration.name) = none := rfl
  exact build_of_create_eq_error hnone (roster_create_complains h) world

private theorem exists_build_nil (h : UsableNamespace settings.metricNamespace) :
    ∃ roster, build settings ([] : List (Registration ω κ)) world = ⟨.ok roster, [], world⟩ := by
  obtain ⟨roster, hc⟩ := create_of_usable (κ := κ) h
  have hnone : Registration.firstRepeated? []
      (([] : List (Registration ω κ)).map Registration.name) = none := rfl
  exact ⟨_, build_of_create_eq_ok hnone hc world⟩

end Empty

/-- Collectors and rosters take the same namespaces, in which their eight names differ; in any
other each complains about its first name. -/
theorem create_agrees_with_build {L ω : Type} (library : L) (metricNamespace : String)
    (span : Option String) (overrides : Overrides) (world : ω) :
    let settings : Settings := ⟨metricNamespace, overrides⟩
    let created := GpuCollector.create library metricNamespace span
    let built := build settings ([] : List (Registration ω κ)) world
    (created.isOk = true ↔ built.outcome.isOk = true) ∧
    (created.isOk = true ↔ IsPlain metricNamespace) ∧
    (∀ collector roster, created = .ok collector → built.outcome = .ok roster →
      let names := roster.duration.1.name :: roster.success.1.name :: collector.metricNames
      names.Nodup ∧ names = nameEnds.map fun nameEnd =>
        if metricNamespace = "" then nameEnd else metricNamespace ++ "_" ++ nameEnd) ∧
    (¬ IsPlain metricNamespace →
      created = .error (nameComplaint (metricNamespace ++ "_gpu_utilisation_percentage")) ∧
      built = ⟨.error (nameComplaint (metricNamespace ++ "_scrape_collector_duration_seconds")), [],
        world⟩) ∧
    ∀ registrations : List (Registration ω (GpuCollector L)),
      (build settings registrations world).outcome.isOk = true →
      ∀ attempt ∈ Registration.attempts settings registrations world,
      ∀ openLibrary, attempt.registration.PassesOn openLibrary →
      ∀ call ∈ attempt.call?, ∀ failure, call.built.outcome = .error failure ↔
        openLibrary call.context call.world = .error failure := by
  intro settings created built
  rw [← usableNamespace_iff]
  refine ⟨?_, ?_, ?_, ?_, ?_⟩
  · by_cases hu : UsableNamespace metricNamespace
    · obtain ⟨collector, hc⟩ := GpuCollector.exists_create_of_usable library span hu
      obtain ⟨roster, hb⟩ := @exists_build_nil κ ω settings world hu
      simp only [created, built, settings, hc, hb]
      exact Iff.rfl
    · simp only [created, built, settings, create_complains hu,
        @build_nil_complains κ ω settings world hu]
      exact Iff.rfl
  · constructor
    · intro hok
      by_contra hu
      simp only [created, create_complains hu] at hok
      cases hok
    · intro hu
      obtain ⟨collector, hc⟩ := GpuCollector.exists_create_of_usable library span hu
      exact congrArg Except.isOk hc
  · intro collector roster hc hb
    obtain ⟨hduration, hsuccess⟩ := names_of_build hb
    have hnames : roster.duration.1.name :: roster.success.1.name :: collector.metricNames =
        Wording.all.map (Wording.fullName metricNamespace) := by
      rw [hduration, hsuccess, GpuCollector.metricNames_eq_fullNames hc]
      rfl
    refine ⟨?_, hnames.trans (map_fullName_all metricNamespace)⟩
    rw [hnames]
    exact Wording.nodup_fullName (fun _ hw => hw) (by decide +kernel) metricNamespace
  · intro hu
    exact ⟨create_complains hu library span, build_nil_complains world hu⟩
  · intro registrations hok attempt ha openLibrary hpasses call hcall failure
    have hfollows := Registration.follows_of_mem_attempts settings registrations world attempt ha
    obtain ⟨-, hcontext, hbuilt⟩ := hfollows.factory call hcall
    have hu : UsableNamespace call.context.metricNamespace := by
      rw [hcontext]
      exact usable_of_build hok
    rw [hbuilt]
    exact hpasses.outcome_eq_error_iff hu call.world failure

/-- A host whose library may not be opened. -/
def closedHost : Vendor.Host := .start ⟨4, 0, [], 0, none, []⟩

/-- A colon and a digit do no harm behind a letter, a digit in front does; the factory fails for
its library only. -/
theorem create_agrees_with_build_closedHost :
    IsPlain "rack:1" ∧ ¬ IsPlain "1:rack" ∧
    GpuCollector.create Frame.empty "1:rack" none =
      .error (nameComplaint "1:rack_gpu_utilisation_percentage") ∧
    let settings : Settings := ⟨"rack:1", .empty⟩
    (build settings Vendor.registrations closedHost).outcome.isOk = true ∧
    ∀ attempt ∈ Registration.attempts settings Vendor.registrations closedHost,
      ∀ call ∈ attempt.call?, call.built.outcome = .error (.initialization .noPermission) := by
  have hplain : IsPlain "rack:1" := (usableNamespace_iff _).mp (Or.inr (by decide))
  have hdigit : ¬ IsPlain "1:rack" := fun h => h.first '1' rfl ⟨by decide, by decide⟩
  obtain ⟨-, -, -, hrefused, -⟩ :=
    @create_agrees_with_build Nat Frame Unit .empty "1:rack" none .empty ()
  obtain ⟨-, -, -, -, hpasses⟩ :=
    @create_agrees_with_build Nat Vendor.Session Vendor.Host ⟨⟩ "rack:1" none .empty closedHost
  have hok : (build ⟨"rack:1", .empty⟩ Vendor.registrations closedHost).outcome.isOk = true := by
    decide +kernel
  refine ⟨hplain, hdigit, (hrefused hdigit).1, hok, ?_⟩
  intro attempt ha call hcall
  have hregistration : attempt.registration ∈ Vendor.registrations := by
    rw [← Registration.map_registration_attempts ⟨"rack:1", .empty⟩ Vendor.registrations closedHost]
    exact List.mem_map_of_mem ha
  have hopened := hpasses _ hok attempt ha _
    (Vendor.passesOn_of_mem_registrations hregistration) call hcall
  rw [hopened]
  obtain rfl := List.mem_singleton.mp ha
  cases hcall
  rfl

end Roster

end GpuTelemetry
