/-
Intervals read as intervals of other values.

The ends of an interval may stand for values of another type, in which they are also compared
differently: a literal for an integer, or for a float under the comparison of numbers. A
`Reading` says what an end stands for and how a value is held against it, and
`IntervalSet.admitsBy` is membership under a reading.

`Interval.Reads` is the passage to the values themselves: each end is converted, where it can be.

* `Interval.Reads.admitsBy`: membership survives the passage, when the readings agree;
* `Interval.Reads.isEmpty_eq`, `Interval.Reads.isPoint_eq` and `Separated.of_reads`: so do
  emptiness, being a point and separation, when the conversion keeps the order of the ends;
* `coveredBy_of_reads`: what converted intervals cover is what the intervals cover.
-/
import ColumnFilter.Proofs.Interval.Normal
import Mathlib.Data.List.Forall2

namespace ColumnFilter

variable {α β γ : Type}

/-! ### Readings -/

/-- What the ends of intervals stand for, and how values are held against them. -/
structure Reading (α β : Type) where
  /-- What an end stands for, if anything. -/
  read : α → Option β
  lt : β → β → Bool
  le : β → β → Bool

/-- Values that stand for themselves. -/
def Reading.plain (lt le : β → β → Bool) : Reading β β := ⟨some, lt, le⟩

/-- Whether a value is on the inner side of a lower end. -/
def Endpoint.admitsAboveBy (r : Reading α β) (lower : Endpoint α) (v : β) : Bool :=
  match lower with
  | .unbounded => true
  | .inclusive a => (r.read a).any (r.le · v)
  | .exclusive a => (r.read a).any (r.lt · v)

/-- Whether a value is on the inner side of an upper end. -/
def Endpoint.admitsBelowBy (r : Reading α β) (upper : Endpoint α) (v : β) : Bool :=
  match upper with
  | .unbounded => true
  | .inclusive a => (r.read a).any (r.le v ·)
  | .exclusive a => (r.read a).any (r.lt v ·)

/-- Whether a value is on the inner side of both ends. -/
def Interval.admitsBy (r : Reading α β) (i : Interval α) (v : β) : Bool :=
  i.lower.admitsAboveBy r v && i.upper.admitsBelowBy r v

/-- Whether some interval of a set admits a value. -/
def IntervalSet.admitsBy (r : Reading α β) (s : IntervalSet α) (v : β) : Bool :=
  s.toList.any (·.admitsBy r v)

/-- The values at the ends of the intervals of a set. -/
def IntervalSet.endValues (s : IntervalSet α) : List α := s.toList.flatMap (·.endValues)

theorem IntervalSet.forall_mem_endValues {s : IntervalSet α} {P : α → Prop} :
    (∀ a ∈ s.endValues, P a) ↔ ∀ i ∈ s.toList, ∀ a ∈ i.endValues, P a := by
  simp only [endValues, List.mem_flatMap, forall_exists_index, and_imp]
  exact forall_comm.trans (forall_congr' fun _ => forall_comm)

/-- The values of a linear order, held against ends by `<` and `≤`. -/
def Reading.ordered (β : Type) [LinearOrder β] : Reading β β :=
  .plain (fun a b => a < b) fun a b => a ≤ b

theorem Endpoint.admitsAboveBy_ordered [LinearOrder β] (lower : Endpoint β) (v : β) :
    lower.admitsAboveBy (.ordered β) v = lower.admitsAbove v := by
  rw [Bool.eq_iff_iff]
  cases lower <;>
    simp [admitsAboveBy, admitsAbove, Reading.ordered, Reading.plain, compare_lt_iff_lt,
      compare_gt_iff_gt]

theorem Endpoint.admitsBelowBy_ordered [LinearOrder β] (upper : Endpoint β) (v : β) :
    upper.admitsBelowBy (.ordered β) v = upper.admitsBelow v := by
  rw [Bool.eq_iff_iff]
  cases upper <;>
    simp [admitsBelowBy, admitsBelow, Reading.ordered, Reading.plain, compare_lt_iff_lt,
      compare_gt_iff_gt]

theorem Interval.admitsBy_ordered [LinearOrder β] (i : Interval β) (v : β) :
    i.admitsBy (.ordered β) v = i.contains v := by
  rw [admitsBy, Endpoint.admitsAboveBy_ordered, Endpoint.admitsBelowBy_ordered]
  rfl

/-- Readings that compare a value with the ends alike admit it alike. -/
theorem Interval.admitsBy_congr {lt le lt' le' : β → β → Bool} {i : Interval β} {v : β}
    (h : ∀ a ∈ i.endValues, (lt a v = lt' a v ∧ le a v = le' a v) ∧
      lt v a = lt' v a ∧ le v a = le' v a) :
    i.admitsBy (.plain lt le) v = i.admitsBy (.plain lt' le') v := by
  obtain ⟨l, u⟩ := i
  simp only [endValues, List.mem_append, Option.mem_toList] at h
  have hl : l.admitsAboveBy (.plain lt le) v = l.admitsAboveBy (.plain lt' le') v := by
    cases l with
    | unbounded => rfl
    | inclusive a => exact (h a (.inl rfl)).1.2
    | exclusive a => exact (h a (.inl rfl)).1.1
  have hu : u.admitsBelowBy (.plain lt le) v = u.admitsBelowBy (.plain lt' le') v := by
    cases u with
    | unbounded => rfl
    | inclusive a => exact (h a (.inr rfl)).2.2
    | exclusive a => exact (h a (.inr rfl)).2.1
  rw [admitsBy, admitsBy, hl, hu]

/-! ### Conversion of ends -/

/-- The second end is the first one with its value converted. -/
inductive Endpoint.Reads (read : α → Option γ) : Endpoint α → Endpoint γ → Prop
  | unbounded : Reads read .unbounded .unbounded
  | inclusive {a : α} {c : γ} (h : read a = some c) : Reads read (.inclusive a) (.inclusive c)
  | exclusive {a : α} {c : γ} (h : read a = some c) : Reads read (.exclusive a) (.exclusive c)

/-- The second interval is the first one with its ends converted. -/
structure Interval.Reads (read : α → Option γ) (i : Interval α) (j : Interval γ) : Prop where
  lower : i.lower.Reads read j.lower
  upper : i.upper.Reads read j.upper

theorem Endpoint.exists_reads {read : α → Option γ} {e : Endpoint α}
    (h : ∀ a ∈ e.value?, (read a).isSome = true) : ∃ e' : Endpoint γ, e.Reads read e' := by
  cases e with
  | unbounded => exact ⟨_, .unbounded⟩
  | inclusive a =>
    obtain ⟨c, hc⟩ := Option.isSome_iff_exists.mp (h a rfl)
    exact ⟨_, .inclusive hc⟩
  | exclusive a =>
    obtain ⟨c, hc⟩ := Option.isSome_iff_exists.mp (h a rfl)
    exact ⟨_, .exclusive hc⟩

theorem Interval.mem_endValues {i : Interval α} {a : α} :
    a ∈ i.endValues ↔ a ∈ i.lower.value? ∨ a ∈ i.upper.value? := by
  simp [endValues]

theorem Interval.forall_mem_endValues {i : Interval α} {P : α → Prop} :
    (∀ a ∈ i.endValues, P a) ↔ (∀ a ∈ i.lower.value?, P a) ∧ ∀ a ∈ i.upper.value?, P a := by
  simp only [mem_endValues, or_imp, forall_and]

theorem Interval.exists_reads {read : α → Option γ} {i : Interval α}
    (h : ∀ a ∈ i.endValues, (read a).isSome = true) : ∃ j : Interval γ, i.Reads read j := by
  obtain ⟨hlower, hupper⟩ := forall_mem_endValues.mp h
  obtain ⟨l, hl⟩ := Endpoint.exists_reads hlower
  obtain ⟨u, hu⟩ := Endpoint.exists_reads hupper
  exact ⟨⟨l, u⟩, hl, hu⟩

/-- The values at the ends of a converted interval are converted ones. -/
theorem Endpoint.Reads.exists_of_mem {read : α → Option γ} {e : Endpoint α} {e' : Endpoint γ}
    (h : e.Reads read e') {c : γ} (hc : c ∈ e'.value?) : ∃ a ∈ e.value?, read a = some c := by
  cases h with
  | unbounded => cases hc
  | inclusive h =>
    cases hc
    exact ⟨_, rfl, h⟩
  | exclusive h =>
    cases hc
    exact ⟨_, rfl, h⟩

theorem Interval.Reads.exists_of_mem {read : α → Option γ} {i : Interval α} {j : Interval γ}
    (h : i.Reads read j) {c : γ} (hc : c ∈ j.endValues) : ∃ a ∈ i.endValues, read a = some c := by
  rcases mem_endValues.mp hc with hc | hc
  · obtain ⟨a, ha, hac⟩ := h.lower.exists_of_mem hc
    exact ⟨a, mem_endValues.mpr (.inl ha), hac⟩
  · obtain ⟨a, ha, hac⟩ := h.upper.exists_of_mem hc
    exact ⟨a, mem_endValues.mpr (.inr ha), hac⟩

/-! ### Conversion and membership -/

/-- A reading through a conversion: what an end stands for is the image of its converted value,
and images compare as the converted values do under another reading. -/
structure Reading.Through (r : Reading α β) (read : α → Option γ) (image : γ → β)
    (lt le : γ → γ → Bool) : Prop where
  read_eq {a : α} {c : γ} : read a = some c → r.read a = some (image c)
  lt_eq (b c : γ) : r.lt (image b) (image c) = lt b c
  le_eq (b c : γ) : r.le (image b) (image c) = le b c

section Through

variable {r : Reading α β} {read : α → Option γ} {image : γ → β} {lt le : γ → γ → Bool}

theorem Endpoint.Reads.admitsAboveBy {e : Endpoint α} {e' : Endpoint γ} (h : e.Reads read e')
    (hr : r.Through read image lt le) (v : γ) :
    e.admitsAboveBy r (image v) = e'.admitsAboveBy (.plain lt le) v := by
  cases h with
  | unbounded => rfl
  | inclusive h =>
    simp [Endpoint.admitsAboveBy, hr.read_eq h, hr.le_eq, Reading.plain]
  | exclusive h =>
    simp [Endpoint.admitsAboveBy, hr.read_eq h, hr.lt_eq, Reading.plain]

theorem Endpoint.Reads.admitsBelowBy {e : Endpoint α} {e' : Endpoint γ} (h : e.Reads read e')
    (hr : r.Through read image lt le) (v : γ) :
    e.admitsBelowBy r (image v) = e'.admitsBelowBy (.plain lt le) v := by
  cases h with
  | unbounded => rfl
  | inclusive h =>
    simp [Endpoint.admitsBelowBy, hr.read_eq h, hr.le_eq, Reading.plain]
  | exclusive h =>
    simp [Endpoint.admitsBelowBy, hr.read_eq h, hr.lt_eq, Reading.plain]

theorem Interval.Reads.admitsBy {i : Interval α} {j : Interval γ} (h : i.Reads read j)
    (hr : r.Through read image lt le) (v : γ) :
    i.admitsBy r (image v) = j.admitsBy (.plain lt le) v := by
  rw [Interval.admitsBy, h.lower.admitsAboveBy hr, h.upper.admitsBelowBy hr]
  rfl

end Through

/-! ### Conversion and order -/

/-- A conversion that keeps the order of the values with a property. -/
def KeepsOrder [Ord α] [Ord γ] (read : α → Option γ) (P : α → Prop) : Prop :=
  ∀ ⦃a b : α⦄ ⦃c d : γ⦄, P a → P b → read a = some c → read b = some d →
    compare c d = compare a b

section KeepsOrder

variable [Ord α] [Ord γ] {read : α → Option γ} {P Q : α → Prop}

theorem KeepsOrder.mono (hk : KeepsOrder read P) (h : ∀ a, Q a → P a) : KeepsOrder read Q :=
  fun a b _ _ ha hb => hk (h a ha) (h b hb)

theorem Endpoint.Reads.touches_eq {e f : Endpoint α} {e' f' : Endpoint γ}
    (hk : KeepsOrder read P) (he : ∀ a ∈ e.value?, P a) (hf : ∀ a ∈ f.value?, P a)
    (h : e.Reads read e') (h' : f.Reads read f') : e'.touches f' = e.touches f := by
  cases h <;> cases h' <;> first
    | rfl
    | simp only [touches, hk (he _ rfl) (hf _ rfl) ‹_› ‹_›]

theorem Endpoint.Reads.crosses_eq {e f : Endpoint α} {e' f' : Endpoint γ}
    (hk : KeepsOrder read P) (he : ∀ a ∈ e.value?, P a) (hf : ∀ a ∈ f.value?, P a)
    (h : e.Reads read e') (h' : f.Reads read f') : e'.crosses f' = e.crosses f := by
  cases h <;> cases h' <;> first
    | rfl
    | simp only [crosses, hk (he _ rfl) (hf _ rfl) ‹_› ‹_›]

theorem Interval.Reads.isEmpty_eq {i : Interval α} {j : Interval γ} (hk : KeepsOrder read P)
    (hi : ∀ a ∈ i.endValues, P a) (h : i.Reads read j) : j.isEmpty = i.isEmpty := by
  obtain ⟨hlower, hupper⟩ := forall_mem_endValues.mp hi
  exact h.lower.crosses_eq hk hlower hupper h.upper

theorem Interval.Reads.isPoint_eq {i : Interval α} {j : Interval γ} (hk : KeepsOrder read P)
    (hi : ∀ a ∈ i.endValues, P a) (h : i.Reads read j) : j.isPoint = i.isPoint := by
  obtain ⟨l, u⟩ := i
  obtain ⟨l', u'⟩ := j
  obtain ⟨hlower, hupper⟩ := forall_mem_endValues.mp hi
  obtain ⟨hl, hu⟩ := h
  cases hl with
  | unbounded => rfl
  | exclusive => rfl
  | inclusive ha =>
    cases hu with
    | unbounded => rfl
    | exclusive => rfl
    | inclusive hb =>
      simp only [isPoint, point?, hk (hlower _ rfl) (hupper _ rfl) ha hb]
      split <;> rfl

end KeepsOrder

/-! ### Conversion and coverage -/

section Coverage

variable {read : α → Option γ} {image : γ → α}

theorem Endpoint.Reads.lowerCut_eq {e : Endpoint α} {e' : Endpoint γ}
    (hread : ∀ a c, read a = some c → a = image c) (h : e.Reads read e') :
    e.lowerCut = e'.lowerCut.map image := by
  cases h with
  | unbounded => rfl
  | inclusive h => exact congrArg Cut.before (hread _ _ h)
  | exclusive h => exact congrArg Cut.after (hread _ _ h)

theorem Endpoint.Reads.upperCut_eq {e : Endpoint α} {e' : Endpoint γ}
    (hread : ∀ a c, read a = some c → a = image c) (h : e.Reads read e') :
    e.upperCut = e'.upperCut.map image := by
  cases h with
  | unbounded => rfl
  | inclusive h => exact congrArg Cut.after (hread _ _ h)
  | exclusive h => exact congrArg Cut.before (hread _ _ h)

theorem Interval.Reads.covers_iff [LinearOrder α] [LinearOrder γ] {i : Interval α}
    {j : Interval γ} (himage : StrictMono image) (hread : ∀ a c, read a = some c → a = image c)
    (h : i.Reads read j) {p : Cut γ} : j.Covers p ↔ i.Covers (p.map image) := by
  have hl : i.lowerCut = j.lowerCut.map image := h.lower.lowerCut_eq hread
  have hu : i.upperCut = j.upperCut.map image := h.upper.upperCut_eq hread
  rw [Covers, Covers, hl, hu, Cut.map_le_map_iff himage, Cut.map_lt_map_iff himage]

end Coverage

/-! ### Conversion of lists -/

section Lists

variable {read : α → Option γ} {list : List (Interval α)} {converted : List (Interval γ)}

theorem exists_forall₂_reads (h : ∀ i ∈ list, ∀ a ∈ i.endValues, (read a).isSome = true) :
    ∃ converted : List (Interval γ), List.Forall₂ (Interval.Reads read) list converted := by
  induction list with
  | nil => exact ⟨[], .nil⟩
  | cons i list ih =>
    obtain ⟨hi, hlist⟩ := List.forall_mem_cons.mp h
    obtain ⟨j, hj⟩ := Interval.exists_reads hi
    obtain ⟨converted, hconverted⟩ := ih hlist
    exact ⟨j :: converted, .cons hj hconverted⟩

/-- Every converted interval is the conversion of one of the list. -/
theorem exists_reads_of_mem (h : List.Forall₂ (Interval.Reads read) list converted)
    {j : Interval γ} (hj : j ∈ converted) : ∃ i ∈ list, i.Reads read j := by
  induction h with
  | nil => cases hj
  | @cons i k list converted hik _ ih =>
    rcases List.mem_cons.mp hj with rfl | hj
    · exact ⟨i, List.mem_cons_self, hik⟩
    · obtain ⟨l, hl, hlj⟩ := ih hj
      exact ⟨l, List.mem_cons_of_mem i hl, hlj⟩

/-- Properties of elements and of their counterparts that agree hold of both lists alike. -/
theorem forall_mem_iff_of_forall₂ {R : α → β → Prop} {P : α → Prop} {Q : β → Prop} {l : List α}
    {l' : List β} (h : List.Forall₂ R l l') (hR : ∀ a ∈ l, ∀ b, R a b → (P a ↔ Q b)) :
    (∀ a ∈ l, P a) ↔ ∀ b ∈ l', Q b := by
  induction h with
  | nil => simp
  | cons hab _ ih =>
    obtain ⟨ha, hl⟩ := List.forall_mem_cons.mp hR
    rw [List.forall_mem_cons, List.forall_mem_cons, ha _ hab, ih hl]

theorem forall_endValues_of_reads {Q : γ → Prop}
    (h : List.Forall₂ (Interval.Reads read) list converted)
    (hQ : ∀ i ∈ list, ∀ a ∈ i.endValues, ∀ c, read a = some c → Q c) :
    ∀ j ∈ converted, ∀ c ∈ j.endValues, Q c := by
  intro j hj c hc
  obtain ⟨i, hi, hij⟩ := exists_reads_of_mem h hj
  obtain ⟨a, ha, hac⟩ := hij.exists_of_mem hc
  exact hQ i hi a ha c hac

theorem any_admitsBy_of_reads {r : Reading α β} {image : γ → β} {lt le : γ → γ → Bool}
    (h : List.Forall₂ (Interval.Reads read) list converted) (hr : r.Through read image lt le)
    (v : γ) :
    list.any (·.admitsBy r (image v)) = converted.any (·.admitsBy (.plain lt le) v) := by
  induction h with
  | nil => rfl
  | cons hij _ ih => rw [List.any_cons, List.any_cons, hij.admitsBy hr, ih]

variable [LinearOrder α] [LinearOrder γ] {P : α → Prop}

/-- Converted intervals cover a cut when the intervals cover its image. -/
theorem coveredBy_of_reads {image : γ → α} (himage : StrictMono image)
    (hread : ∀ a c, read a = some c → a = image c)
    (h : List.Forall₂ (Interval.Reads read) list converted) {p : Cut γ} :
    CoveredBy converted p ↔ CoveredBy list (p.map image) := by
  induction h with
  | nil => simp
  | cons hij _ ih => rw [coveredBy_cons, coveredBy_cons, hij.covers_iff himage hread, ih]

theorem nonempty_of_reads (hk : KeepsOrder read P) (hP : ∀ i ∈ list, ∀ a ∈ i.endValues, P a)
    (h : List.Forall₂ (Interval.Reads read) list converted)
    (hne : ∀ i ∈ list, i.isEmpty = false) : ∀ j ∈ converted, j.isEmpty = false := by
  intro j hj
  obtain ⟨i, hi, hij⟩ := exists_reads_of_mem h hj
  rw [hij.isEmpty_eq hk (hP i hi)]
  exact hne i hi

/-- Conversion keeps a list of intervals separated. -/
theorem Separated.of_reads (hk : KeepsOrder read P) (hP : ∀ i ∈ list, ∀ a ∈ i.endValues, P a)
    (h : List.Forall₂ (Interval.Reads read) list converted) (hs : Separated list) :
    Separated converted := by
  refine separated_iff.mpr ⟨nonempty_of_reads hk hP h hs.nonempty, ?_⟩
  have hchain := (separated_iff.mp hs).2
  clear hs
  -- a gap is between neighbours, so the induction looks two intervals ahead
  induction h with
  | nil => exact .nil
  | @cons i j list converted hij h ih =>
    obtain ⟨hPi, hP⟩ := List.forall_mem_cons.mp hP
    cases h with
    | nil => exact .singleton _
    | cons hij' h =>
      obtain ⟨hgap, hchain⟩ := List.isChain_cons_cons.mp hchain
      refine List.isChain_cons_cons.mpr ⟨?_, ih hP hchain⟩
      have hPupper := (Interval.forall_mem_endValues.mp hPi).2
      have hPlower := (Interval.forall_mem_endValues.mp (hP _ List.mem_cons_self)).1
      rw [hij.upper.touches_eq hk hPupper hPlower hij'.lower]
      exact hgap

end Lists

end ColumnFilter
