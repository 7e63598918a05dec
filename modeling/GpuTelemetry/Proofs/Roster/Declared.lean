import GpuTelemetry.Proofs.Metric.Grouping
import GpuTelemetry.Proofs.Roster.Construction
import GpuTelemetry.Proofs.Roster.Reach
import GpuTelemetry.Proofs.Roster.Series

/-!
# Everything served is declared

A family takes its help from its first sample and its labels from all of them. They agree with one
declared descriptor because declared descriptors of one name agree with each other, even if the
collectors use namespaces that make names out of the names of others: built-in metrics of one name
are the same metric. What is declared does not change with scrapes, and every sample that a scrape
offers is of a declared metric, so that any part of the samples makes declared families.
-/

namespace GpuTelemetry

/-- Descriptors of one name have one help and the same labels. -/
def Descriptor.Consistent (declared : List Descriptor) : Prop :=
  ∀ d ∈ declared, ∀ d' ∈ declared, d.name = d'.name → d.help = d'.help ∧ d.labels = d'.labels

namespace Family

/-- A family that fits one of the declared descriptors. -/
structure DeclaredBy (declared : List Descriptor) (f : Family) : Prop where
  /-- The descriptor has the name, the help and the labels of the family. -/
  descriptor : ∃ d ∈ declared, d.name = f.name ∧ d.help = f.help ∧
    ∀ m ∈ f.metrics, m.labels.map Prod.fst = d.labels
  /-- The family is one of gauges. -/
  gauge : f.kind = .gauge
  /-- There is a metric. -/
  nonempty : f.metrics ≠ []

variable {declared : List Descriptor}

/-- The family of a sample fits its descriptor. -/
theorem declaredBy_ofSample {s : Sample} (h : s.descriptor ∈ declared) :
    (ofSample s).DeclaredBy declared := by
  refine ⟨⟨s.descriptor, h, rfl, rfl, ?_⟩, rfl, List.cons_ne_nil _ _⟩
  intro m hm
  rw [List.mem_singleton.mp hm]
  exact List.map_fst_zip s.length_labelValues.ge

/-- Two families of one name fit one descriptor. -/
theorem DeclaredBy.append (hc : Descriptor.Consistent declared) {head f : Family}
    (hh : head.DeclaredBy declared) (hf : f.DeclaredBy declared) (he : head.name = f.name) :
    ({ head with metrics := head.metrics ++ f.metrics } : Family).DeclaredBy declared := by
  obtain ⟨d, hd, hname, hhelp, hlabels⟩ := hh.descriptor
  obtain ⟨d', hd', hname', -, hlabels'⟩ := hf.descriptor
  have hagree := (hc d hd d' hd' ((hname.trans he).trans hname'.symm)).2
  refine ⟨⟨d, hd, hname, hhelp, ?_⟩, hh.gauge, List.append_ne_nil_of_left_ne_nil hh.nonempty _⟩
  intro m hm
  rcases List.mem_append.mp hm with hm | hm
  · exact hlabels m hm
  · exact (hlabels' m hm).trans hagree.symm

/-- Samples of declared metrics make declared families. -/
theorem declaredBy_of_mem_group (hc : Descriptor.Consistent declared) {samples : List Sample}
    (hs : ∀ s ∈ samples, s.descriptor ∈ declared) :
    ∀ f ∈ group samples, f.DeclaredBy declared :=
  forall_mem_group (fun s h => declaredBy_ofSample (hs s h)) fun _ _ hh hf he =>
    hh.append hc hf he

end Family

/-- Built-in metrics are consistent. -/
theorem Descriptor.consistent_of_builtIn {declared : List Descriptor}
    (h : ∀ d ∈ declared, d.BuiltIn) : Descriptor.Consistent declared :=
  fun d hd d' hd' he => (h d hd).agree (h d' hd') he

/-- A collector as it can be created, in a namespace of its own. -/
def GpuCollector.IsCreated {L : Type} (collector : GpuCollector L) : Prop :=
  ∃ library metricNamespace span, create library metricNamespace span = .ok collector

variable {L : Type} [DeviceLibrary L]

/-- The metrics of a collector that was created are built in. -/
theorem GpuCollector.IsCreated.builtIn {collector : GpuCollector L} (h : collector.IsCreated) :
    ∀ d ∈ Collector.descriptors collector, d.BuiltIn := by
  obtain ⟨library, metricNamespace, span, hc⟩ := h
  intro d hd
  obtain ⟨q, -, rfl⟩ := List.mem_map.mp hd
  exact GpuDescriptors.builtIn_of_create (of_create_eq_ok hc).2.2 q

namespace Roster

/-- A roster of created collectors declares built-in metrics. -/
theorem builtIn_of_build {ω : Type} {settings : Settings}
    {registrations : List (Registration ω (GpuCollector L))} {world : ω}
    {roster : Roster (GpuCollector L)}
    (hb : (build settings registrations world).outcome = .ok roster)
    (hm : ∀ member ∈ roster.members, member.collector.IsCreated) :
    ∀ d ∈ roster.descriptors, d.BuiltIn := by
  have hmembers : ∀ d ∈ roster.members.flatMap fun member => Collector.descriptors member.collector,
      d.BuiltIn := by
    intro d hd
    obtain ⟨member, hmember, hd⟩ := List.mem_flatMap.mp hd
    exact (hm member hmember).builtIn d hd
  obtain ⟨base, hc, rfl⟩ := of_build_eq_ok hb
  obtain ⟨hduration, hsuccess⟩ := builtIn_of_create hc
  exact List.forall_mem_cons.mpr ⟨hduration, List.forall_mem_cons.mpr ⟨hsuccess, hmembers⟩⟩

/-- Every sample that running members can give is of a declared metric. -/
theorem descriptor_mem_of_mem_membersCourse (roster : Roster (GpuCollector L)) (clock : Clock)
    (position : Nat) (members : List (Member (GpuCollector L))) {s : Sample}
    (h : s ∈ Step.samples (roster.membersCourse clock position members)) :
    s.descriptor ∈ { roster with members }.descriptors := by
  induction members generalizing position with
  | nil => cases h
  | cons member rest ih =>
    rw [membersCourse_cons, Step.samples_append, Step.samples_append, List.mem_append,
      List.mem_append] at h
    simp only [descriptors, List.flatMap_cons, List.mem_cons, List.mem_append] at ih ⊢
    rcases h with h | h | h
    · exact Or.inr (Or.inr (Or.inl (member.collector.descriptor_mem_of_mem_updateCourse h)))
    · simp only [closing, Step.samples_recorded, Step.samples_offered, Step.samples_nil,
        List.mem_cons, List.not_mem_nil, or_false] at h
      rcases h with rfl | rfl
      · exact Or.inl rfl
      · exact Or.inr (Or.inl rfl)
    · exact (ih (position + 1) h).imp_right fun h => h.imp_right Or.inr

/-- Every sample that a scrape offers is of a declared metric. -/
theorem descriptor_mem_of_mem_scrape {σ : Type} [Sink σ] (roster : Roster (GpuCollector L))
    (clock : Clock) (sink : σ) {s : Sample}
    (h : s ∈ Step.samples ((roster.scrape clock).trace sink)) :
    s.descriptor ∈ roster.descriptors := by
  have hprefix := (Sink.receive_isPrefix sink (roster.scrape clock).course).filterMap Step.sample?
  rw [samples_trace_scrape] at h
  have hs := hprefix.subset h
  rw [course_scrape] at hs
  exact roster.descriptor_mem_of_mem_membersCourse clock 0 roster.members hs

section Session

variable {τ : Type} [Sink τ]

/-- What is declared does not change with a request. -/
theorem descriptors_answer (roster : Roster (GpuCollector L)) (request : Request τ) :
    (roster.answer request).2.descriptors = roster.descriptors := by
  rw [roster_answer]
  refine roster.descriptors_mapIdx fun i member => ?_
  split <;> rfl

/-- What is declared does not change in a session. -/
theorem descriptors_answerAll (roster : Roster (GpuCollector L)) (requests : List (Request τ)) :
    (roster.answerAll requests).2.descriptors = roster.descriptors := by
  induction requests generalizing roster with
  | nil => rfl
  | cons request rest ih => exact (ih _).trans (roster.descriptors_answer request)

end Session

/-- Whatever was asked before and whatever state libraries are in, every family of a scrape, or of
part of it, is declared. -/
theorem declared_of_build {ω τ : Type} [Sink τ] {settings : Settings}
    {registrations : List (Registration ω (GpuCollector L))} {world : ω}
    {roster : Roster (GpuCollector L)}
    (hb : (build settings registrations world).outcome = .ok roster)
    (hm : ∀ member ∈ roster.members, member.collector.IsCreated)
    (before : List (Request τ)) (clock : Clock) :
    let now := (roster.answerAll before).2
    now.descriptors = roster.descriptors ∧
    (∀ f ∈ (now.collect clock).families, f.DeclaredBy now.descriptors) ∧
    ∀ (sink : τ) (kept : List Sample),
      kept.Sublist (Step.samples ((now.scrape clock).trace sink)) →
      ∀ f ∈ Family.group kept, f.DeclaredBy now.descriptors := by
  intro now
  have hnow : now.descriptors = roster.descriptors := roster.descriptors_answerAll before
  have hc : Descriptor.Consistent now.descriptors := by
    rw [hnow]
    exact Descriptor.consistent_of_builtIn (builtIn_of_build hb hm)
  refine ⟨hnow, ?_, ?_⟩
  · refine Family.declaredBy_of_mem_group hc fun s hs => ?_
    have hempty : s ∈ Step.samples ((now.scrape clock).trace Collected.empty) := by
      rw [Activity.trace_of_accepts _ (Collected.willing _ _)]
      exact Activity.samples_perform_empty (now.scrape clock) ▸ hs
    exact now.descriptor_mem_of_mem_scrape clock Collected.empty hempty
  · intro sink kept hkept
    refine Family.declaredBy_of_mem_group hc fun s hs => ?_
    exact now.descriptor_mem_of_mem_scrape clock sink (hkept.subset hs)

/-- The registration of a collector over a reel. -/
def reelRegistration : Registration Reel (GpuCollector Reel) :=
  ⟨"nvidia", true, fun context reel =>
    ⟨GpuCollector.create reel context.metricNamespace (some context.collector), [], reel⟩⟩

/-- What is collected from a reel with troubles, a second time, is declared. -/
theorem declared_of_build_troubledReel :
    ∃ roster,
      (build .default [reelRegistration] GpuCollector.troubledReel).outcome = .ok roster ∧
      (∀ member ∈ roster.members, member.collector.IsCreated) ∧
      let clock : Clock := fun _ => .one
      let now := (roster.answerAll [(Request.collect clock : Request Quota)]).2
      ∀ f ∈ (now.collect clock).families, f.DeclaredBy now.descriptors := by
  have husable : UsableNamespace Settings.default.metricNamespace := Or.inr (by decide)
  have hnames : ([reelRegistration].map Registration.name).Nodup := by decide
  obtain ⟨roster, left, -, hbuilt, -⟩ :=
    exists_build_of_usable hnames husable GpuCollector.troubledReel
  have hok := congrArg Built.outcome hbuilt
  have hcreated : ∀ member ∈ roster.members, member.collector.IsCreated := by
    intro member hm
    obtain ⟨registration, hr, context, reel, ho⟩ := exists_factory_of_mem_members hok hm
    obtain rfl := List.mem_singleton.mp hr
    exact ⟨reel, context.metricNamespace, some context.collector, ho⟩
  exact ⟨roster, hok, hcreated, (declared_of_build hok hcreated _ _).2.1⟩

end Roster

end GpuTelemetry
