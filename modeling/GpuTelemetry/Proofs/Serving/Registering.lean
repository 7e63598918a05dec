import GpuTelemetry.Device.Bench
import GpuTelemetry.Proofs.Metric.Namespaces
import GpuTelemetry.Proofs.Roster.Declared
import GpuTelemetry.Proofs.Roster.Names
import GpuTelemetry.Proofs.Roster.Namespaces
import GpuTelemetry.Proofs.Serving.Uniqueness

/-!
# Registering a roster

A new registry refuses a roster for a name that is declared twice and for nothing else, as long as
digests tell names: built-in metrics of one name have one shape. No two built-in metrics share a
name, whatever the namespaces, so the only roster of GPU collectors that is refused is one with two
collectors in one namespace. The two metrics of the roster itself have no part in it.
-/

namespace GpuTelemetry

/-- A collector as it can be created in a namespace. -/
def GpuCollector.IsCreatedIn {L : Type} (collector : GpuCollector L) (metricNamespace : String) :
    Prop :=
  ∃ library span, create library metricNamespace span = .ok collector

private theorem GpuCollector.IsCreatedIn.isCreated {L : Type} {collector : GpuCollector L}
    {metricNamespace : String} (h : collector.IsCreatedIn metricNamespace) :
    collector.IsCreated := by
  obtain ⟨library, span, hc⟩ := h
  exact ⟨library, metricNamespace, span, hc⟩

/-- Members whose collectors were created in some namespaces, one after the other. -/
def AreCreatedIn {L : Type} (members : List (Member (GpuCollector L)))
    (namespaces : List String) : Prop :=
  List.Forall₂ (fun member metricNamespace => member.collector.IsCreatedIn metricNamespace) members
    namespaces

namespace Descriptor

/-- Descriptors of one digest have one name. -/
def DigestsTellNames (declared : List Descriptor) : Prop :=
  ∀ d ∈ declared, ∀ d' ∈ declared, d.id = d'.id → d.name = d'.name

/-- Digests of different names that differ tell names. -/
theorem DigestsTellNames.of_nodup {declared : List Descriptor} {names : List String}
    (h : ∀ d ∈ declared, d.name ∈ names)
    (hn : (names.map fun name => Digest.ofTexts [name]).Nodup) : DigestsTellNames declared :=
  fun d hd d' hd' he => List.inj_on_of_nodup_map hn (h d hd) (h d' hd') he

/-- Where digests tell names, a digest occurs in a list just if the name does. -/
theorem DigestsTellNames.id_mem_iff {declared seen : List Descriptor}
    (h : DigestsTellNames declared) (hs : ∀ d ∈ seen, d ∈ declared) {d : Descriptor}
    (hd : d ∈ declared) : d.id ∈ seen.map id ↔ d.name ∈ seen.map name := by
  constructor
  · intro hm
    obtain ⟨other, ho, he⟩ := List.mem_map.mp hm
    exact List.mem_map.mpr ⟨other, ho, h other (hs other ho) d hd he⟩
  · intro hm
    obtain ⟨other, ho, he⟩ := List.mem_map.mp hm
    refine List.mem_map.mpr ⟨other, ho, ?_⟩
    rw [id, id, he]

/-- Consistent descriptors of one name have one shape. -/
theorem Consistent.shape_eq {declared : List Descriptor} (h : Consistent declared)
    {d d' : Descriptor} (hd : d ∈ declared) (hd' : d' ∈ declared) (he : d.name = d'.name) :
    d.shape = d'.shape := by
  obtain ⟨hhelp, hlabels⟩ := h d hd d' hd' he
  rw [shape, shape, hhelp, hlabels]

end Descriptor

namespace Wording

/-- The names of the six quantities in a namespace. -/
def gpuNames (metricNamespace : String) : List String :=
  (Quantity.all.map ofQuantity).map (fullName metricNamespace)

private theorem mem_gpuNames {metricNamespace name : String} :
    name ∈ gpuNames metricNamespace ↔
      ∃ q ∈ Quantity.all, (ofQuantity q).fullName metricNamespace = name := by
  rw [gpuNames, List.map_map, List.mem_map]
  rfl

/-- In another namespace there are other names. -/
theorem disjoint_gpuNames {metricNamespace metricNamespace' : String}
    (h : metricNamespace ≠ metricNamespace') :
    (gpuNames metricNamespace).Disjoint (gpuNames metricNamespace') := by
  intro name hn hn'
  obtain ⟨q, -, rfl⟩ := mem_gpuNames.mp hn
  obtain ⟨q', -, he⟩ := mem_gpuNames.mp hn'
  exact h (eq_of_fullName_eq (ofQuantity_mem q') (ofQuantity_mem q) he).1.symm

/-- Words of no quantity make no name of one, in whatever namespaces. -/
theorem fullName_not_mem_gpuNames {w : Wording} (hw : w ∈ all) (hq : ∀ q, w ≠ ofQuantity q)
    (own : String) (namespaces : List String) :
    w.fullName own ∉ namespaces.flatMap gpuNames := by
  intro hm
  obtain ⟨metricNamespace, -, hm⟩ := List.mem_flatMap.mp hm
  obtain ⟨q, -, he⟩ := mem_gpuNames.mp hm
  exact hq q (eq_of_fullName_eq (ofQuantity_mem q) hw he).2.symm

private theorem duration_ne_ofQuantity (q : Quantity) : duration ≠ ofQuantity q := by
  cases q <;> decide

private theorem success_ne_ofQuantity (q : Quantity) : success ≠ ofQuantity q := by
  cases q <;> decide

/-- The names of a roster in one namespace with collectors in others. -/
def rosterNames (own : String) (namespaces : List String) : List String :=
  duration.fullName own :: success.fullName own :: namespaces.flatMap gpuNames

/-- In different namespaces no name comes twice, whatever namespace the roster itself has. -/
theorem nodup_rosterNames (own : String) {namespaces : List String} (h : namespaces.Nodup) :
    (rosterNames own namespaces).Nodup := by
  have hgpu : (namespaces.flatMap gpuNames).Nodup := by
    rw [List.nodup_flatMap]
    constructor
    · intro metricNamespace _
      have hwords : ∀ w ∈ Quantity.all.map ofQuantity, w ∈ all := fun _ hw =>
        List.mem_cons_of_mem _ (List.mem_cons_of_mem _ hw)
      exact nodup_fullName hwords (by decide) metricNamespace
    · exact h.imp disjoint_gpuNames
  rw [rosterNames, List.nodup_cons, List.nodup_cons, List.mem_cons, not_or]
  refine ⟨⟨fun he => ?_, ?_⟩, ?_, hgpu⟩
  · exact absurd (eq_of_fullName_eq duration_mem success_mem he).2 (by decide)
  · exact fullName_not_mem_gpuNames duration_mem duration_ne_ofQuantity own namespaces
  · exact fullName_not_mem_gpuNames success_mem success_ne_ofQuantity own namespaces

/-- With collectors in fewer namespaces there are fewer names. -/
theorem rosterNames_subset (own : String) {namespaces namespaces' : List String}
    (h : namespaces ⊆ namespaces') : rosterNames own namespaces ⊆ rosterNames own namespaces' := by
  refine List.cons_subset_cons _ (List.cons_subset_cons _ fun name hm => ?_)
  obtain ⟨metricNamespace, hmem, hname⟩ := List.mem_flatMap.mp hm
  exact List.mem_flatMap.mpr ⟨metricNamespace, h hmem, hname⟩

/-- The first name that comes twice is the first name in the first namespace that does. -/
theorem firstRepeated?_rosterNames (own : String) (namespaces : List String) :
    Registration.firstRepeated? [] (rosterNames own namespaces) =
      (Registration.firstRepeated? [] namespaces).map
        (fullName · (ofQuantity .utilization)) := by
  by_cases hn : namespaces.Nodup
  · rw [Registration.firstRepeated?_of_nodup hn,
      Registration.firstRepeated?_of_nodup (nodup_rosterNames own hn)]
    rfl
  · obtain ⟨before, metricNamespace, after, rfl, hb, hm, hr⟩ :=
      Registration.exists_firstRepeated?_of_not_nodup hn
    have hsplit : rosterNames own (before ++ metricNamespace :: after) =
        rosterNames own before ++ (ofQuantity .utilization).fullName metricNamespace ::
          ((gpuNames metricNamespace).tail ++ after.flatMap gpuNames) := by
      simp only [rosterNames, List.flatMap_append, List.flatMap_cons, List.cons_append]
      rfl
    have hmem : (ofQuantity .utilization).fullName metricNamespace ∈ rosterNames own before := by
      have hblock : (ofQuantity .utilization).fullName metricNamespace ∈
          gpuNames metricNamespace := List.mem_cons_self
      exact List.mem_cons_of_mem _ (List.mem_cons_of_mem _
        (List.mem_flatMap.mpr ⟨metricNamespace, hm, hblock⟩))
    rw [hr, hsplit, Registration.firstRepeated?_append_cons (nodup_rosterNames own hb)
      (fun _ _ => List.not_mem_nil) (Or.inr hmem)]
    rfl

end Wording

namespace Serving.Registry

/-- The refusal of a name that is declared twice. -/
def repeatedName (name : String) : ServingError :=
  .refused ("a duplicate descriptor within the same collector the same fully-qualified name: " ++
    Text.quoted name)

/-- Shapes that are those of declared descriptors. -/
def ShapesOf (declared : List Descriptor) (shapes : List (String × UInt64)) : Prop :=
  ∀ entry ∈ shapes, ∃ d ∈ declared, entry = (d.name, d.shape)

namespace ShapesOf

variable {declared : List Descriptor} {shapes : List (String × UInt64)} {d : Descriptor}

/-- Such shapes never contradict a declared descriptor. -/
theorem any_lookup_eq_false (h : ShapesOf declared shapes) (hc : Descriptor.Consistent declared)
    (hd : d ∈ declared) : (shapes.lookup d.name).any (· != d.shape) = false := by
  cases hl : shapes.lookup d.name with
  | none => rfl
  | some known =>
    have hentry : (d.name, known) ∈ shapes := by
      obtain ⟨before, after, rfl, -⟩ := List.lookup_eq_some_iff.mp hl
      exact List.mem_append_right _ List.mem_cons_self
    obtain ⟨d', hd', he⟩ := h _ hentry
    obtain ⟨hname, rfl⟩ := Prod.mk.inj he
    rw [Option.any_some, hc.shape_eq hd hd' hname, bne_self_eq_false]

/-- They stay so when a descriptor is checked. -/
theorem checked (h : ShapesOf declared shapes) (hd : d ∈ declared) :
    ShapesOf declared
      (if (shapes.lookup d.name).isNone then (d.name, d.shape) :: shapes else shapes) := by
  split
  · exact List.forall_mem_cons.mpr ⟨⟨d, hd, rfl⟩, h⟩
  · exact h

end ShapesOf

/-- If digests tell names and descriptors are consistent, a registry without digests objects to
repeated names only. -/
theorem checkAll_eq_firstRepeated? {declared : List Descriptor}
    (hc : Descriptor.Consistent declared) (hd : Descriptor.DigestsTellNames declared)
    {seen ds : List Descriptor} {shapes : List (String × UInt64)}
    (hseen : ∀ d ∈ seen, d ∈ declared) (hds : ∀ d ∈ ds, d ∈ declared)
    (hshapes : ShapesOf declared shapes) :
    (checkAll [] (seen.map Descriptor.id) shapes ds).1 =
      match Registration.firstRepeated? (seen.map Descriptor.name) (ds.map Descriptor.name) with
      | none => .ok ((ds.map Descriptor.id).reverse ++ seen.map Descriptor.id)
      | some name => .error (repeatedName name) := by
  induction ds generalizing seen shapes with
  | nil => rfl
  | cons d rest ih =>
    obtain ⟨hmem, hrest⟩ := List.forall_mem_cons.mp hds
    have hagree := hshapes.any_lookup_eq_false hc hmem
    have hiff := hd.id_mem_iff hseen hmem
    rw [checkAll, if_neg List.not_mem_nil, List.map_cons, Registration.firstRepeated?]
    simp only [hagree, Bool.false_eq_true, if_false]
    by_cases hs : d.name ∈ seen.map Descriptor.name
    · rw [if_pos (hiff.mpr hs), if_pos hs]
      rfl
    · rw [if_neg (mt hiff.mp hs), if_neg hs]
      have hstep := ih (List.forall_mem_cons.mpr ⟨hmem, hseen⟩) hrest (hshapes.checked hmem)
      rw [List.map_cons, List.map_cons] at hstep
      rw [hstep, List.map_cons, List.reverse_cons, List.append_assoc]
      rfl

/-- A new registry takes a roster unless a declared name repeats. -/
theorem register_eq_firstRepeated? {κ : Type} [Collector κ] {scope : Option String}
    {label : Option (String × String)} {registry : Registry κ}
    (hr : Registry.create scope label = .ok registry) {roster : Roster κ}
    (hc : Descriptor.Consistent roster.descriptors)
    (hd : Descriptor.DigestsTellNames roster.descriptors) :
    (registry.register roster).1 =
      match Registration.firstRepeated? [] (roster.descriptors.map Descriptor.name) with
      | none => .ok ()
      | some name => .error (repeatedName name) := by
  have hnew : registry = ⟨scope, label, [], [], [], []⟩ := by
    unfold Registry.create at hr
    split at hr
    · cases hr
    · cases hr
      rfl
  have hnone : ∀ d ∈ ([] : List Descriptor), d ∈ roster.descriptors :=
    fun _ hm => absurd hm List.not_mem_nil
  have hunknown : ShapesOf roster.descriptors [] := fun _ hm => absurd hm List.not_mem_nil
  have hcheck := checkAll_eq_firstRepeated? hc hd hnone (fun _ hm => hm) hunknown
  simp only [List.map_nil] at hcheck
  rw [hnew, register]
  cases hf : Registration.firstRepeated? [] (roster.descriptors.map Descriptor.name) with
  | none =>
    rw [hf] at hcheck
    split
    · rename_i cause _ he
      rw [he] at hcheck
      cases hcheck
    · rw [if_neg List.not_mem_nil]
  | some name =>
    rw [hf] at hcheck
    split
    · rename_i cause _ he
      rw [he] at hcheck
      cases hcheck
      rfl
    · rename_i own _ he
      rw [he] at hcheck
      cases hcheck

end Serving.Registry

namespace Roster

variable {L : Type} [DeviceLibrary L]

/-- The names that collectors declare in the namespaces in which they were created. -/
theorem declaredNames_of_isCreatedIn {members : List (Member (GpuCollector L))}
    {namespaces : List String}
    (h : AreCreatedIn members namespaces) :
    declaredNames members = namespaces.flatMap Wording.gpuNames := by
  induction h with
  | nil => rfl
  | cons hc _ ih =>
    obtain ⟨library, span, hc⟩ := hc
    have hnames := GpuCollector.metricNames_eq_fullNames hc
    rw [declaredNames_cons, ih, List.flatMap_cons]
    exact congrArg (· ++ _) hnames

/-- The names of a roster that was built. -/
theorem names_descriptors_of_build {ω : Type} {settings : Settings}
    {registrations : List (Registration ω (GpuCollector L))} {world : ω}
    {roster : Roster (GpuCollector L)}
    (hb : (build settings registrations world).outcome = .ok roster) {namespaces : List String}
    (hm : AreCreatedIn roster.members namespaces) :
    roster.descriptors.map Descriptor.name =
      Wording.rosterNames settings.metricNamespace namespaces := by
  obtain ⟨hduration, hsuccess⟩ := names_of_build hb
  rw [map_name_descriptors, hduration, hsuccess, declaredNames_of_isCreatedIn hm]
  rfl

/-- Neither metric of such a roster has a name of the other or of a collector. -/
theorem scrapeNames_ne {roster : Roster (GpuCollector L)} {own : String}
    {namespaces : List String}
    (h : roster.descriptors.map Descriptor.name = Wording.rosterNames own namespaces) :
    roster.duration.1.name ≠ roster.success.1.name ∧
      ∀ member ∈ roster.members, ∀ d ∈ Collector.descriptors member.collector,
        d.name ≠ roster.duration.1.name ∧ d.name ≠ roster.success.1.name := by
  obtain ⟨hduration, h⟩ := List.cons.inj h
  obtain ⟨hsuccess, h⟩ := List.cons.inj h
  rw [hduration, hsuccess]
  constructor
  · intro he
    exact absurd (Wording.eq_of_fullName_eq Wording.duration_mem Wording.success_mem he).2
      (by decide)
  · intro member hm d hd
    have hdeclared : d.name ∈ namespaces.flatMap Wording.gpuNames := by
      rw [← h]
      exact List.mem_map_of_mem (List.mem_flatMap.mpr ⟨member, hm, hd⟩)
    have hother {w : Wording} (hw : w ∈ Wording.all) (hq : ∀ q, w ≠ .ofQuantity q) :
        d.name ≠ w.fullName own := by
      intro he
      rw [he] at hdeclared
      exact Wording.fullName_not_mem_gpuNames hw hq own namespaces hdeclared
    exact ⟨hother Wording.duration_mem Wording.duration_ne_ofQuantity,
      hother Wording.success_mem Wording.success_ne_ofQuantity⟩

end Roster

namespace Serving.Registry

/-- A new registry takes a roster of GPU collectors unless a namespace repeats; it refuses the first
name in that namespace. -/
theorem register_eq_of_names {κ : Type} [Collector κ] {scope : Option String}
    {label : Option (String × String)} {registry : Registry κ}
    (hr : Registry.create scope label = .ok registry) {roster : Roster κ}
    (hc : Descriptor.Consistent roster.descriptors)
    (hd : Descriptor.DigestsTellNames roster.descriptors) {own : String} {namespaces : List String}
    (hnames : roster.descriptors.map Descriptor.name = Wording.rosterNames own namespaces) :
    (registry.register roster).1 =
      match Registration.firstRepeated? [] namespaces with
      | none => .ok ()
      | some metricNamespace =>
        .error (repeatedName ((Wording.ofQuantity .utilization).fullName metricNamespace)) := by
  rw [register_eq_firstRepeated? hr hc hd, hnames, Wording.firstRepeated?_rosterNames]
  cases Registration.firstRepeated? [] namespaces with
  | none => rfl
  | some metricNamespace => rfl

/-- A new registry takes a roster of GPU collectors just if these are in different namespaces, as
long as no digests of names collide. -/
theorem register_isOk_iff_nodup {L ω τ : Type} [DeviceLibrary L] [Sink τ] {settings : Settings}
    {registrations : List (Registration ω (GpuCollector L))} {world : ω}
    {roster : Roster (GpuCollector L)}
    (hb : (Roster.build settings registrations world).outcome = .ok roster)
    {namespaces : List String} (hm : AreCreatedIn roster.members namespaces)
    (hd : Descriptor.DigestsTellNames roster.descriptors)
    {scope : Option String} {label : Option (String × String)}
    {registry : Registry (GpuCollector L)} (hr : Registry.create scope label = .ok registry)
    (before : List (Roster.Request τ)) :
    let now := (roster.answerAll before).2
    let outcome := (registry.register now).1
    (outcome.isOk = true ↔ namespaces.Nodup) ∧
    (∀ cause, outcome = .error cause →
      ∃ earlier metricNamespace later, namespaces = earlier ++ metricNamespace :: later ∧
        earlier.Nodup ∧ metricNamespace ∈ earlier ∧
        cause = repeatedName ((Wording.ofQuantity .utilization).fullName metricNamespace)) ∧
    now.duration.1.name ≠ now.success.1.name ∧
    ∀ member ∈ now.members, ∀ d ∈ Collector.descriptors member.collector,
      d.name ≠ now.duration.1.name ∧ d.name ≠ now.success.1.name := by
  intro now outcome
  have hnow : now.descriptors = roster.descriptors := roster.descriptors_answerAll before
  have hnames : now.descriptors.map Descriptor.name =
      Wording.rosterNames settings.metricNamespace namespaces := by
    rw [hnow, Roster.names_descriptors_of_build hb hm]
  have hcreated : ∀ member ∈ roster.members, member.collector.IsCreated :=
    ((List.forall₂_and_left _ _).mp (hm.imp fun _ _ h => ⟨h.isCreated, h⟩)).1
  have hc : Descriptor.Consistent now.descriptors := by
    rw [hnow]
    exact Descriptor.consistent_of_builtIn (Roster.builtIn_of_build hb hcreated)
  have houtcome := register_eq_of_names hr hc (hnow ▸ hd) hnames
  have hscrape := Roster.scrapeNames_ne hnames
  simp only [outcome, houtcome]
  by_cases hn : namespaces.Nodup
  · rw [Registration.firstRepeated?_of_nodup hn]
    refine ⟨iff_of_true rfl hn, ?_, hscrape⟩
    intro cause hcause
    cases hcause
  · obtain ⟨earlier, metricNamespace, later, hsplit, hearlier, hmem, hf⟩ :=
      Registration.exists_firstRepeated?_of_not_nodup hn
    rw [hf]
    refine ⟨iff_of_false Bool.false_ne_true hn, ?_, hscrape⟩
    intro cause hcause
    cases hcause
    exact ⟨earlier, metricNamespace, later, hsplit, hearlier, hmem, rfl⟩

/-- A registration whose factory makes a collector in a namespace of its own choice. -/
def settled (name metricNamespace : String) : Registration Unit (GpuCollector Frame) :=
  ⟨name, true, fun _ world => ⟨GpuCollector.create .empty metricNamespace none, [], world⟩⟩

/-- The roster of collectors in some namespaces, itself in the namespace of the default settings. -/
def settledRoster (namespaces : List String) : Built Failure Unit (Roster (GpuCollector Frame)) :=
  Roster.build .default (namespaces.zipIdx.map fun entry => settled (toString entry.2) entry.1) ()

/-- The collectors of such a roster are in these namespaces, if they can be used. -/
theorem areCreatedIn_settledRoster {namespaces : List String}
    (hu : ∀ metricNamespace ∈ namespaces, UsableNamespace metricNamespace)
    {roster : Roster (GpuCollector Frame)} (hb : (settledRoster namespaces).outcome = .ok roster) :
    AreCreatedIn roster.members namespaces := by
  obtain ⟨base, -, rfl⟩ := Roster.of_build_eq_ok hb
  dsimp only
  generalize 0 = position
  clear hb
  induction namespaces generalizing position with
  | nil => exact .nil
  | cons metricNamespace rest ih =>
    obtain ⟨hfirst, hrest⟩ := List.forall_mem_cons.mp hu
    obtain ⟨collector, hc⟩ := GpuCollector.exists_create_of_usable Frame.empty none hfirst
    have henabled : Settings.default.isEnabled (settled (toString position) metricNamespace).name
        (settled (toString position) metricNamespace).enabledByDefault = true := rfl
    have hmember : ((settled (toString position) metricNamespace).attempt .default ()).member? =
        some ⟨toString position, collector⟩ := by
      rw [Registration.attempt_of_enabled henabled]
      exact congrArg (fun outcome : Except Failure (GpuCollector Frame) =>
        outcome.toOption.map (Member.mk (toString position))) hc
    rw [List.zipIdx_cons, List.map_cons, Registration.attempts, List.filterMap_cons_some hmember]
    exact .cons ⟨.empty, none, hc⟩ (ih hrest (position + 1))

/-- Namespaces that look like names of built-in metrics, and that of the default settings. -/
def lookalikes : List String := ["", "node", "node_gpu", "node_scrape_collector"]

/-- Rosters in some of these namespaces can be built, and their digests tell names. -/
theorem exists_settledRoster {namespaces : List String} (hsub : namespaces ⊆ lookalikes) :
    ∃ roster, (settledRoster namespaces).outcome = .ok roster ∧
      AreCreatedIn roster.members namespaces ∧ Descriptor.DigestsTellNames roster.descriptors := by
  have husable : ∀ metricNamespace ∈ lookalikes, UsableNamespace metricNamespace := by
    unfold UsableNamespace
    decide
  have hnames : ((namespaces.zipIdx.map fun entry => settled (toString entry.2) entry.1).map
      Registration.name).Nodup := by
    have hpositions : (namespaces.zipIdx.map Prod.snd).Nodup := by
      rw [List.zipIdx_map_snd]
      exact List.nodup_range' 1
    have htexts := hpositions.map_on (f := toString) fun _ _ _ _ he => Nat.repr_inj.mp he
    rw [List.map_map] at htexts ⊢
    exact htexts
  have hdefault : UsableNamespace Settings.default.metricNamespace := Or.inr (by decide)
  obtain ⟨roster, left, -, hbuilt, -⟩ := Roster.exists_build_of_usable hnames hdefault ()
  have hb : (settledRoster namespaces).outcome = .ok roster := congrArg Built.outcome hbuilt
  have hm := areCreatedIn_settledRoster (fun _ h => husable _ (hsub h)) hb
  refine ⟨roster, hb, hm, ?_⟩
  have hdigests : ((Wording.rosterNames Settings.default.metricNamespace lookalikes).map
      fun name => Digest.ofTexts [name]).Nodup := by
    decide +kernel
  refine Descriptor.DigestsTellNames.of_nodup (fun d hd => ?_) hdigests
  refine Wording.rosterNames_subset _ hsub ?_
  rw [← Roster.names_descriptors_of_build hb hm]
  exact List.mem_map_of_mem hd

/-- Namespaces that look like built-in metrics do no harm, even that of the roster itself; but no
namespace may come twice. -/
theorem register_settledRoster :
    let registry : Registry (GpuCollector Frame) := ⟨none, none, [], [], [], []⟩
    (∃ roster, (settledRoster lookalikes).outcome = .ok roster ∧
      (registry.register roster).1.isOk = true) ∧
    ∃ roster, (settledRoster ["node_gpu", "", "node_gpu"]).outcome = .ok roster ∧
      (registry.register roster).1.isOk = false := by
  intro registry
  have hnew : Registry.create none none = .ok registry := rfl
  constructor
  · obtain ⟨roster, hb, hm, hd⟩ := exists_settledRoster (List.Subset.refl lookalikes)
    have h := register_isOk_iff_nodup hb hm hd hnew ([] : List (Roster.Request Quota))
    exact ⟨roster, hb, h.1.mpr (by decide)⟩
  · obtain ⟨roster, hb, hm, hd⟩ := @exists_settledRoster ["node_gpu", "", "node_gpu"] (by decide)
    have h := register_isOk_iff_nodup hb hm hd hnew ([] : List (Roster.Request Quota))
    exact ⟨roster, hb, Bool.eq_false_iff.mpr (mt h.1.mp (by decide))⟩

end Serving.Registry

end GpuTelemetry
