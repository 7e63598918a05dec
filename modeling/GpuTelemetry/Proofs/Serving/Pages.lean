import GpuTelemetry.Proofs.Exposition.Pages
import GpuTelemetry.Proofs.Metric.Partition
import GpuTelemetry.Proofs.Roster.Isolation
import GpuTelemetry.Proofs.Serving.Arrangement
import GpuTelemetry.Proofs.Serving.Reached

/-!
# Every page can be served

What descriptors guarantee of samples survives grouping, arranging and presenting, whatever
collectors give and whatever state they are in. So a registry always has a page. It is empty only
if no roster gave a sample, and a roster that is scraped to its end gives some for every collector.
-/

namespace GpuTelemetry

namespace Serving.Registry

/-- Arranging keeps families well-formed. -/
theorem wellFormed_of_mem_arrange {families : List Family} (h : ∀ f ∈ families, f.WellFormed) :
    ∀ f ∈ arrange families, f.WellFormed := by
  have hjoined : ∀ f ∈ (families.filter fun f => !f.metrics.isEmpty).foldl Family.merge [],
      f.WellFormed :=
    Family.forall_mem_foldl_merge (fun _ _ hh hf _ => hh.append hf)
      (fun _ hf => absurd hf List.not_mem_nil) fun f hf => h f (List.mem_of_mem_filter hf)
  intro f hf
  obtain ⟨unordered, hu, rfl⟩ := List.mem_map.mp hf
  have hw := hjoined unordered (List.mem_mergeSort.mp hu)
  refine ⟨hw.name_valid, hw.help_nonempty, ?_, ?_⟩
  · intro he
    have hnil : unordered.metrics.mergeSort metricLE = [] := he
    have hp := List.mergeSort_perm unordered.metrics metricLE
    rw [hnil] at hp
    exact hw.metrics_nonempty hp.nil_eq.symm
  · exact fun m hm => hw.labels_valid m (List.mem_mergeSort.mp hm)

/-- Arranging leaves nothing only of nothing. -/
theorem arrange_eq_nil_iff {families : List Family} (h : ∀ f ∈ families, f.WellFormed) :
    arrange families = [] ↔ families = [] := by
  constructor
  · intro he
    have hentries := entries_arrange_perm families
    rw [he, List.flatMap_nil] at hentries
    cases families with
    | nil => rfl
    | cons f rest =>
      have hf := List.flatMap_eq_nil_iff.mp hentries.nil_eq.symm f List.mem_cons_self
      have hmetrics : f.metrics = [] := List.map_eq_nil_iff.mp hf
      exact absurd hmetrics (h f List.mem_cons_self).metrics_nonempty
  · rintro rfl
    simp [arrange]

variable {κ : Type} (registry : Registry κ)

/-- A well-formed family is presented with a name and a metric. -/
theorem named_present {f : Family} (h : f.WellFormed) :
    (registry.present f).name ≠ "" ∧ (registry.present f).metrics ≠ [] := by
  constructor
  · unfold present
    cases registry.scope with
    | none => exact h.name_ne_empty
    | some scope => exact fun he => h.name_ne_empty (String.append_eq_empty_iff.mp he).2
  · exact fun he => h.metrics_nonempty (List.map_eq_nil_iff.mp he)

/-- So are well-formed families that are arranged before. -/
theorem named_of_mem_arrange {families : List Family} (h : ∀ f ∈ families, f.WellFormed) :
    ∀ f ∈ (arrange families).map registry.present, f.name ≠ "" ∧ f.metrics ≠ [] := by
  intro f hf
  obtain ⟨arranged, ha, rfl⟩ := List.mem_map.mp hf
  exact registry.named_present (wellFormed_of_mem_arrange h arranged ha)

variable [Collector κ] (clock : Clock)

private theorem wellFormed_of_mem_collectAll (rosters : List (Roster κ)) :
    ∀ f ∈ (collectAll clock rosters).1, f.WellFormed := by
  rw [collectAll_eq]
  intro f hf
  obtain ⟨roster, -, hf⟩ := List.mem_flatMap.mp hf
  exact Family.wellFormed_of_mem_group _ f hf

private theorem named_of_mem_gather :
    ∀ f ∈ (registry.gather clock).1, f.name ≠ "" ∧ f.metrics ≠ [] :=
  registry.named_of_mem_arrange (wellFormed_of_mem_collectAll clock registry.rosters)

/-- Nothing is gathered only if no roster gives a sample. -/
theorem gather_eq_nil_iff :
    (registry.gather clock).1 = [] ↔ ∀ roster ∈ registry.rosters,
      ((roster.scrape clock).perform Collected.empty).sink.samples = [] := by
  have hgather : (registry.gather clock).1 =
      (arrange (collectAll clock registry.rosters).1).map registry.present := rfl
  rw [hgather, List.map_eq_nil_iff,
    arrange_eq_nil_iff (wellFormed_of_mem_collectAll clock registry.rosters), collectAll_eq,
    List.flatMap_eq_nil_iff]
  exact forall₂_congr fun roster _ => Family.group_eq_nil_iff _

end Serving.Registry

namespace Roster

variable {κ τ : Type} [Collector κ] [Sink τ] (roster : Roster κ) (clock : Clock)

/-- A scrape that comes to its end gives samples unless there are no collectors. -/
theorem samples_scrape_eq_nil_iff {sink : τ} (hs : Sink.Willing sink)
    (h : ∀ member ∈ roster.members, member.verdict ≠ .error .sinkClosed) :
    Step.samples ((roster.scrape clock).trace sink) = [] ↔ roster.isEmpty = true := by
  obtain ⟨-, htrace⟩ := roster.scrape_of_proceeds clock hs fun member hm =>
    member.proceeds_iff.mpr (h member hm)
  rw [htrace, isEmpty, List.isEmpty_iff]
  cases roster.members with
  | nil => exact ⟨fun _ => rfl, fun _ => rfl⟩
  | cons member rest =>
    constructor
    · intro he
      rw [samples_report, List.zipIdx_cons, List.flatMap_cons, accountOf] at he
      simp at he
    · intro he
      cases he

/-- So does a roster that is gathered, if nothing ends its scrape. -/
theorem samples_perform_eq_nil_iff
    (h : ∀ member ∈ roster.members, member.verdict ≠ .error .sinkClosed) :
    ((roster.scrape clock).perform Collected.empty).sink.samples = [] ↔
      roster.isEmpty = true := by
  have hw := Collected.willing .empty
  rw [Activity.samples_perform_empty, ← Activity.trace_of_accepts (roster.scrape clock) (hw _)]
  exact roster.samples_scrape_eq_nil_iff clock hw h

end Roster

namespace Serving.Registry

/-- Samples always have a page, and so has a registry in any state; only without samples is it
empty. -/
theorem exists_page_always {κ τ : Type} [Collector κ] [Sink τ] :
    (∀ samples : List Sample, ∃ page,
      Exposition.writeSamples samples = .ok page ∧
      Exposition.Clears (Family.group samples) page ∧ (page = "" ↔ samples = [])) ∧
    (∀ (registry : Registry κ) (clock : Clock), ∃ page,
      (registry.writePage clock).1 = .ok page ∧
      Exposition.Clears (registry.gather clock).1 page ∧
      (page = "" ↔ ∀ roster ∈ registry.rosters,
        ((roster.scrape clock).perform Collected.empty).sink.samples = []) ∧
      ((∀ roster ∈ registry.rosters, ∀ member ∈ roster.members,
          member.verdict ≠ .error .sinkClosed) →
        (page = "" ↔ ∀ roster ∈ registry.rosters, roster.isEmpty = true))) ∧
    (∀ (roster : Roster κ) (clock : Clock) (sink : τ), Sink.Willing sink →
      (∀ member ∈ roster.members, member.verdict ≠ .error .sinkClosed) → ∃ page,
      Exposition.writeSamples (Step.samples ((roster.scrape clock).trace sink)) = .ok page ∧
      (page = "" ↔ roster.isEmpty = true)) := by
  have hsamples : ∀ samples : List Sample, ∃ page,
      Exposition.writeSamples samples = .ok page ∧
      Exposition.Clears (Family.group samples) page ∧ (page = "" ↔ samples = []) := by
    intro samples
    obtain ⟨page, hpage, hclears, hempty⟩ := Exposition.exists_page fun f hf =>
      have hw := Family.wellFormed_of_mem_group samples f hf
      ⟨hw.name_ne_empty, hw.metrics_nonempty⟩
    exact ⟨page, hpage, hclears, hempty.trans (Family.group_eq_nil_iff samples)⟩
  refine ⟨hsamples, ?_, ?_⟩
  · intro registry clock
    obtain ⟨page, hpage, hclears, hempty⟩ :=
      Exposition.exists_page (registry.named_of_mem_gather clock)
    have hsome := hempty.trans (registry.gather_eq_nil_iff clock)
    refine ⟨page, hpage, hclears, hsome, fun hverdicts => hsome.trans ?_⟩
    exact forall₂_congr fun roster hr =>
      roster.samples_perform_eq_nil_iff clock (hverdicts roster hr)
  · intro roster clock sink hs hverdicts
    obtain ⟨page, hpage, -, hempty⟩ := hsamples (Step.samples ((roster.scrape clock).trace sink))
    exact ⟨page, hpage, hempty.trans (roster.samples_scrape_eq_nil_iff clock hs hverdicts)⟩

/-- A collector that fails is on the page as much as one that succeeds. -/
theorem exists_page_relay_noDevices :
    ∃ roster : Roster Playback,
      (Roster.build .default (Roster.relayRegistrations .noDevices) ()).outcome = .ok roster ∧
      ∃ page, Exposition.writeSamples
          (Step.samples ((roster.scrape fun _ => .one).trace Collected.empty)) = .ok page ∧
        page ≠ "" := by
  obtain ⟨roster, hbuild, hmembers⟩ := Roster.exists_build_relay .noDevices
  obtain ⟨page, hpage, hempty⟩ := exists_page_always.2.2 roster (fun _ => .one) Collected.empty
    (Collected.willing _) (hmembers ▸ Roster.verdict_ne_of_mem_relayMembers (by decide))
  refine ⟨roster, hbuild, page, hpage, fun he => ?_⟩
  have hmany := hempty.mp he
  rw [Roster.isEmpty, hmembers] at hmany
  cases hmany

end Serving.Registry

end GpuTelemetry
