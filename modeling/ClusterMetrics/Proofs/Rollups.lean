import ClusterMetrics.Proofs.SeriesCells

/-! # Sums of means

A rollup averages the samples of each child first and adds the means, so a child counts once in a
place, however many samples it has there.

* **`sumOfMeans`**, **`childMeans`**: the sum of the means of children, and these means.
* **`AddsUp`**: the cells of an answer are the places that have members, and their values are sums
  of means of children.
* **`AddsUp.filter`**, **`AddsUp.mem_iff`**: selected cells add up selected places, and sums are
  told apart by their places.
* **`AddsUp.of_cellMeans`**: sums of means add up if every sample has its child in front of its
  place. -/

namespace ClusterMetrics

open ClusterMetrics.Decimal

/-! ## Sums -/

/-- The **sum of the means** of children: a child adds one term, however many members it has, and
what is not a number adds nothing. -/
def sumOfMeans {α κ : Type} [DecidableEq κ] (child : α → κ) (value : α → Option Reading)
    (members : List α) : Float :=
  compensatedSum (((groupBy child members).map fun g => mean (numbers (g.2.map value))).filter
    fun x => !isNaN x)

/-- The **means of children**, in the order of their first members. -/
def childMeans {α κ : Type} [DecidableEq κ] (child : α → κ) (value : α → Option Reading)
    (members : List α) : List Float :=
  (groupBy child members).map fun g => mean (numbers (g.2.map value))

/-- The sum of the means of children **adds up** these means. -/
theorem sumOfMeans_eq {α κ : Type} [DecidableEq κ] (child : α → κ) (value : α → Option Reading)
    (members : List α) :
    sumOfMeans child value members
      = compensatedSum ((childMeans child value members).filter fun x => !isNaN x) := rfl

/-- Children that tell the same members apart have **the same means**. -/
theorem childMeans_congr {α κ κ' : Type} [DecidableEq κ] [DecidableEq κ'] {child : α → κ}
    {child' : α → κ'} (value : α → Option Reading) {members : List α}
    (h : ∀ m ∈ members, ∀ m' ∈ members, child m = child m' ↔ child' m = child' m') :
    childMeans child value members = childMeans child' value members := by
  have hgroups := congrArg (List.map fun g : List α => mean (numbers (g.map value)))
    (groupBy_members_eq members h)
  rwa [List.map_map, List.map_map] at hgroups

/-- Images have the means of **the members they come from**. -/
theorem childMeans_map {α β κ : Type} [DecidableEq κ] (child : β → κ) (value : β → Option Reading)
    (f : α → β) (members : List α) :
    childMeans child value (members.map f) = childMeans (child ∘ f) (value ∘ f) members := by
  rw [childMeans, groupBy_map, List.map_map, childMeans]
  simp only [Function.comp_def, List.map_map]

/-- There is a mean **if there is a member**. -/
theorem childMeans_eq_nil_iff {α κ : Type} [DecidableEq κ] (child : α → κ)
    (value : α → Option Reading) {members : List α} :
    childMeans child value members = [] ↔ members = [] := by
  constructor
  · intro hnone
    rw [childMeans, List.map_eq_nil_iff] at hnone
    cases members with
    | nil => rfl
    | cons m members => simp [groupBy_cons] at hnone
  · rintro rfl
    rfl

/-- Children that tell the same members apart have **the same sum**. -/
theorem sumOfMeans_congr {α κ κ' : Type} [DecidableEq κ] [DecidableEq κ'] {child : α → κ}
    {child' : α → κ'} (value : α → Option Reading) {members : List α}
    (h : ∀ m ∈ members, ∀ m' ∈ members, child m = child m' ↔ child' m = child' m') :
    sumOfMeans child value members = sumOfMeans child' value members := by
  rw [sumOfMeans_eq, sumOfMeans_eq, childMeans_congr value h]

/-- Images have the sum of **the members they come from**. -/
theorem sumOfMeans_map {α β κ : Type} [DecidableEq κ] (child : β → κ) (value : β → Option Reading)
    (f : α → β) (members : List α) :
    sumOfMeans child value (members.map f) = sumOfMeans (child ∘ f) (value ∘ f) members := by
  rw [sumOfMeans_eq, sumOfMeans_eq, childMeans_map]

/-- A sum of means is of a place that a complete sample is a part of, and adds up **the means of
that place**. -/
theorem mem_addUp_cellMeans_iff {part : List Cell → List Cell} {bucketing : Bucketing}
    {samples : List KeyedSample} {means : List SeriesCell}
    (h : cellMeans bucketing samples = .ok means) {c : SeriesCell} :
    c ∈ addUp part means ↔
      (∃ s ∈ samples, isComplete s.key = true ∧ (part s.key, bucketing.bucket s.ts) = c.place) ∧
        c.value = sumOfMeans (KeyedSample.place bucketing) (·.value) (samples.filter fun s =>
          isComplete s.key && (part s.key, bucketing.bucket s.ts) = c.place) := by
  have hexists : (∃ d ∈ means, (part d.key, d.bucket) = c.place) ↔
      ∃ s ∈ samples, isComplete s.key = true ∧ (part s.key, bucketing.bucket s.ts) = c.place := by
    constructor
    · rintro ⟨d, hd, hpart⟩
      obtain ⟨⟨s, hs, hcomplete, hplace⟩, -⟩ := (mem_cellMeans_iff h).1 hd
      obtain ⟨hkey, hbucket⟩ := Prod.mk.inj hplace
      exact ⟨s, hs, hcomplete, by rw [hkey, hbucket, ← hpart]⟩
    · rintro ⟨s, hs, hcomplete, hpart⟩
      obtain ⟨d, hd, hplace⟩ := exists_mem_cellMeans h hs hcomplete
      obtain ⟨hkey, hbucket⟩ := Prod.mk.inj hplace
      exact ⟨d, hd, by rw [hkey, hbucket, ← hpart]⟩
  -- the means of the place are the means of its samples
  obtain ⟨-, hplace⟩ := cellMeans_eq_ok_iff.1
    (cellMeans_filter h fun p => decide ((part p.1, p.2) = c.place))
  have hvalues : (means.filter fun d => (part d.key, d.bucket) = c.place).map (·.value)
      = (groupBy (KeyedSample.place bucketing) (samples.filter fun s =>
          isComplete s.key && (part s.key, bucketing.bucket s.ts) = c.place)).map fun g =>
            mean (numbers (g.2.map (·.value))) := by
    rw [List.filter_filter] at hplace
    exact (congrArg (List.map (·.value)) hplace).trans (List.map_map ..)
  rw [mem_addUp_iff, hexists, hvalues, sumOfMeans]

/-! ## Adding up places -/

/-- The cells of an answer **add up** the means of children: each is the cell of a place that has
members, and every place that has members has one cell. -/
structure AddsUp {ι κ : Type} [DecidableEq κ] (cells : List SeriesCell)
    (place? : ι → Option (List Cell × Int)) (members : ι → List LabelledSample)
    (child : LabelledSample → κ) : Prop where
  sound : ∀ c ∈ cells, ∃ i, place? i = some c.place ∧ members i ≠ [] ∧
    c.value = sumOfMeans child (·.sample.value) (members i)
  complete : ∀ i, members i ≠ [] → ∃! c, c ∈ cells ∧ place? i = some c.place

namespace AddsUp

variable {ι κ : Type} [DecidableEq κ] {place? : ι → Option (List Cell × Int)}
  {members : ι → List LabelledSample} {child : LabelledSample → κ} {cells : List SeriesCell}

/-- Where no place has members, **no cell** adds up. -/
theorem nil (h : ∀ i, members i = []) : AddsUp [] place? members child := by
  constructor
  · intro c hc
    cases hc
  · intro i hi
    exact absurd (h i) hi

/-- The order of the cells **does not matter**. -/
theorem inOrder (h : AddsUp cells place? members child) (order : List Cell → List Cell) :
    AddsUp (inOrder order cells) place? members child := by
  constructor
  · intro c hc
    exact h.sound c (mem_inOrder.1 hc)
  · intro i hi
    simpa only [mem_inOrder] using h.complete i hi

/-- Children may be told apart **in another way** that agrees on the members of each place. -/
theorem congr {κ' : Type} [DecidableEq κ'] {child' : LabelledSample → κ'}
    (h : AddsUp cells place? members child)
    (hchild : ∀ i, ∀ m ∈ members i, ∀ m' ∈ members i, child m = child m' ↔ child' m = child' m') :
    AddsUp cells place? members child' := by
  refine ⟨fun c hc => ?_, h.complete⟩
  obtain ⟨i, hplace, hmembers, hvalue⟩ := h.sound c hc
  exact ⟨i, hplace, hmembers, hvalue.trans (sumOfMeans_congr _ (hchild i))⟩

/-- Cells that are selected by their places add up the members of **selected places**. -/
theorem filter (h : AddsUp cells place? members child) {p : List Cell × Int → Bool} {q : ι → Bool}
    {members' : ι → List LabelledSample} (hq : ∀ i place, place? i = some place → q i = p place)
    (hmembers : ∀ i, members' i = if q i then members i else []) :
    AddsUp (cells.filter fun c => p c.place) place? members' child := by
  constructor
  · intro c hc
    obtain ⟨hc, hp⟩ := List.mem_filter.1 hc
    obtain ⟨i, hplace, hne, hvalue⟩ := h.sound c hc
    have hsame : members' i = members i := by rw [hmembers, hq i _ hplace, if_pos hp]
    exact ⟨i, hplace, hsame ▸ hne, hsame ▸ hvalue⟩
  · intro i hne
    rw [hmembers] at hne
    cases hqi : q i with
    | false => simp [hqi] at hne
    | true =>
      rw [hqi, if_pos rfl] at hne
      obtain ⟨c, ⟨hc, hplace⟩, hunique⟩ := h.complete i hne
      have hp : p c.place = true := (hq i _ hplace).symm.trans hqi
      refine ⟨c, ⟨List.mem_filter.2 ⟨hc, hp⟩, hplace⟩, ?_⟩
      rintro d ⟨hd, hdplace⟩
      exact hunique d ⟨(List.mem_filter.1 hd).1, hdplace⟩

/-- The places of the cells are the places that **have members**. -/
theorem mem_places_iff (h : AddsUp cells place? members child) {place : List Cell × Int} :
    place ∈ cells.map SeriesCell.place ↔ ∃ i, place? i = some place ∧ members i ≠ [] := by
  rw [List.mem_map]
  constructor
  · rintro ⟨c, hc, rfl⟩
    obtain ⟨i, hplace, hne, -⟩ := h.sound c hc
    exact ⟨i, hplace, hne⟩
  · rintro ⟨i, hplace, hne⟩
    obtain ⟨c, ⟨hc, hcplace⟩, -⟩ := h.complete i hne
    exact ⟨c, hc, Option.some.inj (hcplace.symm.trans hplace)⟩

/-- Where members tell places apart, the cells are **the sums** of the places that have members. -/
theorem mem_iff (h : AddsUp cells place? members child)
    (differ : ∀ i j place, place? i = some place → place? j = some place → i = j)
    {c : SeriesCell} :
    c ∈ cells ↔ ∃ i, place? i = some c.place ∧ members i ≠ [] ∧
      c.value = sumOfMeans child (·.sample.value) (members i) := by
  refine ⟨h.sound c, ?_⟩
  rintro ⟨i, hplace, hne, hvalue⟩
  obtain ⟨d, ⟨hd, hdplace⟩, -⟩ := h.complete i hne
  obtain ⟨j, hj, -, hdvalue⟩ := h.sound d hd
  obtain rfl := differ i j d.place hdplace hj
  have heq : c.place = d.place := Option.some.inj (hplace.symm.trans hdplace)
  obtain ⟨hkey, hbucket⟩ := Prod.mk.inj heq
  obtain ⟨ckey, cbucket, cvalue⟩ := c
  obtain ⟨dkey, dbucket, dvalue⟩ := d
  obtain rfl : ckey = dkey := hkey
  obtain rfl : cbucket = dbucket := hbucket
  obtain rfl : cvalue = dvalue := hvalue.trans hdvalue.symm
  exact hd

/-- Sums of means **add up** if the samples of a place are made from its members, by putting the
child in front of the place. -/
theorem of_cellMeans {bucketing : Bucketing} {samples : List KeyedSample} {means : List SeriesCell}
    {part : List Cell → List Cell} {lead : LabelledSample → List Cell}
    (hm : cellMeans bucketing samples = .ok means)
    (hsamples : ∀ i place, place? i = some place →
      samples.filter (fun s => isComplete s.key && (part s.key, bucketing.bucket s.ts) = place)
        = (members i).map fun m => keyed (lead m ++ place.1) m)
    (hsome : ∀ i, members i ≠ [] → (place? i).isSome = true)
    (hkeys : ∀ s ∈ samples, isComplete s.key = true →
      ∃ i, place? i = some (part s.key, bucketing.bucket s.ts)) :
    AddsUp (addUp part means) place? members lead := by
  have hvalue : ∀ i place, place? i = some place →
      sumOfMeans (KeyedSample.place bucketing) (·.value) (samples.filter fun s =>
          isComplete s.key && (part s.key, bucketing.bucket s.ts) = place)
        = sumOfMeans lead (·.sample.value) (members i) := by
    intro i place hplace
    have hmap := hsamples i place hplace
    -- the members of a place lie in its bucket, so only what leads their keys differs
    have hbucket : ∀ m ∈ members i,
        bucketing.bucket (keyed (lead m ++ place.1) m).ts = place.2 := by
      intro m hmem
      have hin := List.mem_map_of_mem (f := fun m => keyed (lead m ++ place.1) m) hmem
      rw [← hmap, List.mem_filter, Bool.and_eq_true, decide_eq_true_eq] at hin
      exact congrArg Prod.snd hin.2.2
    rw [hmap, sumOfMeans_map]
    refine sumOfMeans_congr _ fun m hmem m' hmem' => ?_
    rw [Function.comp_apply, Function.comp_apply, KeyedSample.place, KeyedSample.place,
      hbucket m hmem, hbucket m' hmem', Prod.mk.injEq, and_iff_left rfl]
    exact List.append_left_inj place.1
  have hmem : ∀ {c : SeriesCell}, c ∈ addUp part means ↔ _ := mem_addUp_cellMeans_iff hm
  constructor
  · intro c hc
    obtain ⟨⟨s, hs, hcomplete, hpart⟩, hsum⟩ := hmem.1 hc
    obtain ⟨i, hi⟩ := hkeys s hs hcomplete
    rw [hpart] at hi
    refine ⟨i, hi, ?_, hsum.trans (hvalue i _ hi)⟩
    intro hempty
    have hnone := hsamples i _ hi
    rw [hempty, List.map_nil, List.filter_eq_nil_iff] at hnone
    exact hnone s hs (by simp [hcomplete, hpart])
  · intro i hi
    obtain ⟨place, hplace⟩ := Option.isSome_iff_exists.1 (hsome i hi)
    have hne : samples.filter (fun s =>
        isComplete s.key && (part s.key, bucketing.bucket s.ts) = place) ≠ [] := by
      rw [hsamples i place hplace]
      simpa using hi
    obtain ⟨s, hs⟩ := List.exists_mem_of_ne_nil _ hne
    obtain ⟨hs, hcond⟩ := List.mem_filter.1 hs
    rw [Bool.and_eq_true, decide_eq_true_eq] at hcond
    obtain ⟨d, hd, hdplace⟩ := exists_mem_cellMeans hm hs hcond.1
    obtain ⟨hdkey, hdbucket⟩ := Prod.mk.inj hdplace
    have hpart : (part d.key, d.bucket) = place := by rw [hdkey, hdbucket, hcond.2]
    obtain ⟨c, hc, hcplace⟩ := exists_mem_addUp part hd
    refine ⟨c, ⟨hc, by rw [hcplace, hpart, hplace]⟩, ?_⟩
    rintro e ⟨he, heplace⟩
    have hsame : e.place = place := Option.some.inj (heplace.symm.trans hplace)
    exact eq_of_place_eq addUp_places_nodup he hc (hsame.trans (hpart.symm.trans hcplace.symm))

end AddsUp

end ClusterMetrics
