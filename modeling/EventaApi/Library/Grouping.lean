import Mathlib.Algebra.BigOperators.Group.List.Basic
import Mathlib.Data.List.Nodup
import Mathlib.Data.List.Sort

/-!
# Grouping by key

A loop that groups fills a map kept in insertion order: setting a key the map has replaces the
value where it stands, and setting another puts it last. What is found under a key afterwards
comes of the entries with that key alone, and a loop that adds to what it finds loses nothing
where every key is known. Where the classes are visited in the order the entries
already have, the groups put behind each other are the entries again.
-/
namespace EventaApi.Library

/-! ## Maps kept in insertion order -/

abbrev KeyedMap (κ ν : Type) := List (κ × ν)

namespace KeyedMap

variable {κ ν ε : Type} [DecidableEq κ]

/-- `map.get(key)`. -/
def get : KeyedMap κ ν → κ → Option ν
  | [], _ => none
  | (head, value) :: rest, key => if head = key then some value else get rest key

/-- `map.has(key)`. -/
def has (map : KeyedMap κ ν) (key : κ) : Bool := (map.get key).isSome

/-- `map.set(key, value)`. -/
def set : KeyedMap κ ν → κ → ν → KeyedMap κ ν
  | [], key, value => [(key, value)]
  | (head, old) :: rest, key, value =>
    if head = key then (head, value) :: rest else (head, old) :: set rest key value

def keys (map : KeyedMap κ ν) : List κ := map.map Prod.fst

@[simp] theorem get_nil (key : κ) : get ([] : KeyedMap κ ν) key = none := rfl

theorem get_set (map : KeyedMap κ ν) (key other : κ) (value : ν) :
    (map.set key value).get other = if key = other then some value else map.get other := by
  induction map with
  | nil => simp [set, get]
  | cons head rest ih =>
    obtain ⟨first, old⟩ := head
    unfold set
    by_cases same : first = key
    · subst same
      by_cases hit : first = other
      · simp [get, hit]
      · simp [get, hit]
    · by_cases hit : first = other
      · subst hit
        simp [get, same, Ne.symm same]
      · simp [get, same, hit, ih]

theorem keys_set (map : KeyedMap κ ν) (key : κ) (value : ν) :
    (map.set key value).keys = if key ∈ map.keys then map.keys else map.keys ++ [key] := by
  induction map with
  | nil => simp [set, keys]
  | cons head rest ih =>
    obtain ⟨first, old⟩ := head
    unfold set
    by_cases same : first = key
    · simp [keys, same]
    · have other : key ≠ first := Ne.symm same
      simp only [keys] at ih
      simp only [keys, same, if_false, List.map_cons, ih, List.mem_cons, other, false_or]
      by_cases known : key ∈ rest.map Prod.fst
      · simp [known]
      · simp [known]

theorem mem_keys_iff {map : KeyedMap κ ν} {key : κ} :
    key ∈ map.keys ↔ ∃ value, map.get key = some value := by
  induction map with
  | nil => simp [keys]
  | cons head rest ih =>
    obtain ⟨first, old⟩ := head
    by_cases same : first = key
    · simp [keys, get, same]
    · simp only [keys] at ih
      simp [keys, get, same, Ne.symm same, ih]

/-! ## What a loop leaves -/

/-- What is found under a key comes of the entries with that key. -/
theorem get_foldl_set (key : ε → κ) (combine : Option ν → ε → ν) (entries : List ε)
    (map : KeyedMap κ ν) (wanted : κ) :
    (entries.foldl (fun map entry =>
        map.set (key entry) (combine (map.get (key entry)) entry)) map).get wanted =
      (entries.filter fun entry => key entry = wanted).foldl
        (fun found entry => some (combine found entry)) (map.get wanted) := by
  induction entries generalizing map with
  | nil => rfl
  | cons entry rest ih =>
    rw [List.foldl_cons, ih, get_set]
    by_cases same : key entry = wanted
    · subst same
      simp
    · simp [same]

/-- Keys set in order are in that order afterwards. -/
theorem pairwise_keys_foldl_set {r : κ → κ → Prop} (value : ν) (wanted : List κ)
    {map : KeyedMap κ ν} (before : map.keys.Pairwise r)
    (across : ∀ key ∈ map.keys, ∀ later ∈ wanted, key = later ∨ r key later)
    (inOrder : wanted.Pairwise fun key later => key = later ∨ r key later) :
    (wanted.foldl (fun map key => map.set key value) map).keys.Pairwise r := by
  induction wanted generalizing map with
  | nil => exact before
  | cons first rest ih =>
    obtain ⟨least, inOrder⟩ := List.pairwise_cons.mp inOrder
    apply ih _ _ inOrder
    · rw [keys_set]
      split
      · exact before
      next fresh =>
        rw [List.pairwise_append]
        refine ⟨before, List.pairwise_singleton r first, ?_⟩
        intro key member other alone
        rw [List.mem_singleton.mp alone]
        rcases across key member first List.mem_cons_self with rfl | less
        · exact absurd member fresh
        · exact less
    · intro key member later among
      rw [keys_set] at member
      split at member
      · exact across key member later (List.mem_cons_of_mem _ among)
      · rcases List.mem_append.mp member with old | new
        · exact across key old later (List.mem_cons_of_mem _ among)
        · rw [List.mem_singleton.mp new]
          exact least later among

theorem get_foldl_set_const (value : ν) (wanted : List κ) (map : KeyedMap κ ν) (key : κ) :
    (wanted.foldl (fun map key => map.set key value) map).get key =
      if key ∈ wanted then some value else map.get key := by
  induction wanted generalizing map with
  | nil => simp
  | cons first rest ih =>
    rw [List.foldl_cons, ih, get_set]
    by_cases same : first = key
    · subst same
      simp
    · simp [same, Ne.symm same]

theorem mem_set {map : KeyedMap κ ν} {key : κ} {value : ν} {entry : κ × ν}
    (member : entry ∈ map.set key value) : entry ∈ map ∨ entry = (key, value) := by
  induction map with
  | nil => exact Or.inr (List.mem_singleton.mp member)
  | cons head rest ih =>
    obtain ⟨first, old⟩ := head
    unfold set at member
    split at member
    next same =>
      subst same
      rcases List.mem_cons.mp member with itself | later
      · exact Or.inr itself
      · exact Or.inl (List.mem_cons_of_mem _ later)
    next =>
      rcases List.mem_cons.mp member with itself | later
      · exact Or.inl (itself ▸ List.mem_cons_self)
      · exact (ih later).imp_left (List.mem_cons_of_mem _)

theorem mem_foldl_set_const {value : ν} {wanted : List κ} {map : KeyedMap κ ν} {entry : κ × ν}
    (member : entry ∈ wanted.foldl (fun map key => map.set key value) map) :
    entry ∈ map ∨ entry.2 = value := by
  induction wanted generalizing map with
  | nil => exact Or.inl member
  | cons first rest ih =>
    rcases ih member with before | same
    · rcases mem_set before with old | new
      · exact Or.inl old
      · exact Or.inr (new ▸ rfl)
    · exact Or.inr same

/-- Two maps with the same keys, and the same under each of them, are the same. -/
theorem ext_of_keys {map other : KeyedMap κ ν} (apart : map.keys.Nodup)
    (same : map.keys = other.keys) (found : ∀ key ∈ map.keys, map.get key = other.get key) :
    map = other := by
  induction map generalizing other with
  | nil =>
    cases other with
    | nil => rfl
    | cons head rest => cases same
  | cons head rest ih =>
    cases other with
    | nil => cases same
    | cons head' rest' =>
      obtain ⟨first, value⟩ := head
      obtain ⟨first', value'⟩ := head'
      simp only [keys, List.map_cons, List.cons.injEq] at same
      obtain ⟨rfl, tails⟩ := same
      obtain ⟨alone, apart⟩ := List.nodup_cons.mp apart
      have values := found first List.mem_cons_self
      simp only [get, if_true, Option.some.injEq] at values
      subst values
      rw [ih apart tails]
      intro key member
      have this := found key (List.mem_cons_of_mem _ member)
      have other : first ≠ key := by
        rintro rfl
        exact alone member
      simpa [get, other] using this

theorem mem_iff_get {map : KeyedMap κ ν} (apart : map.keys.Nodup) {key : κ} {value : ν} :
    (key, value) ∈ map ↔ map.get key = some value := by
  induction map with
  | nil => simp
  | cons head rest ih =>
    obtain ⟨first, old⟩ := head
    obtain ⟨alone, apart⟩ := List.nodup_cons.mp apart
    by_cases same : first = key
    · subst same
      have absent : (first, value) ∉ rest := fun member =>
        alone (List.mem_map.mpr ⟨_, member, rfl⟩)
      simp [get, absent, eq_comm]
    · simp [get, same, Ne.symm same, ih apart]

/-! ## Adding up -/

section Adding

variable [AddCommMonoid ν] (key : ε → κ) (amount : ε → ν)

/-- Add to what is found under a key; a key the map does not have is passed over. -/
def addTo (map : KeyedMap κ ν) (entry : ε) : KeyedMap κ ν :=
  match map.get (key entry) with
  | none => map
  | some running => map.set (key entry) (running + amount entry)

theorem keys_addTo (map : KeyedMap κ ν) (entry : ε) :
    (map.addTo key amount entry).keys = map.keys := by
  unfold addTo
  split
  · rfl
  next running found => rw [keys_set, if_pos (mem_keys_iff.mpr ⟨running, found⟩)]

theorem keys_foldl_addTo (entries : List ε) (map : KeyedMap κ ν) :
    (entries.foldl (addTo key amount) map).keys = map.keys := by
  induction entries generalizing map with
  | nil => rfl
  | cons entry rest ih => rw [List.foldl_cons, ih, keys_addTo]

/-- What is found under a key is what was there and the entries with that key. -/
theorem get_foldl_addTo (entries : List ε) (map : KeyedMap κ ν) (wanted : κ) :
    (entries.foldl (addTo key amount) map).get wanted = (map.get wanted).map fun running =>
      running + ((entries.filter fun entry => key entry = wanted).map amount).sum := by
  induction entries generalizing map with
  | nil => simp
  | cons entry rest ih =>
    have added : (map.addTo key amount entry).get wanted = (map.get wanted).map fun running =>
        if key entry = wanted then running + amount entry else running := by
      unfold addTo
      split
      next absent =>
        by_cases same : key entry = wanted
        · subst same
          simp [absent]
        · simp [same]
      next running found =>
        rw [get_set]
        by_cases same : key entry = wanted
        · subst same
          simp [found]
        · simp [same]
    rw [List.foldl_cons, ih, added, Option.map_map]
    congr 1
    funext running
    by_cases same : key entry = wanted
    · simp [same, add_assoc]
    · simp [same]

theorem sum_set {map : KeyedMap κ ν} {key : κ} {running : ν} (found : map.get key = some running)
    (added : ν) : ((map.set key (running + added)).map Prod.snd).sum =
      (map.map Prod.snd).sum + added := by
  induction map with
  | nil => cases found
  | cons head rest ih =>
    obtain ⟨first, old⟩ := head
    unfold get at found
    unfold set
    split at found
    next same =>
      cases found
      simp only [if_pos same, List.map_cons, List.sum_cons]
      exact add_right_comm _ _ _
    next other =>
      simp only [if_neg other, List.map_cons, List.sum_cons, ih found]
      exact (add_assoc _ _ _).symm

/-- Where every key is known nothing is lost. -/
theorem sum_foldl_addTo (entries : List ε) (map : KeyedMap κ ν)
    (known : ∀ entry ∈ entries, key entry ∈ map.keys) :
    ((entries.foldl (addTo key amount) map).map Prod.snd).sum =
      (map.map Prod.snd).sum + (entries.map amount).sum := by
  have added (map : KeyedMap κ ν) (entry : ε) (present : key entry ∈ map.keys) :
      ((map.addTo key amount entry).map Prod.snd).sum = (map.map Prod.snd).sum + amount entry := by
    obtain ⟨running, found⟩ := mem_keys_iff.mp present
    simp only [addTo, found]
    exact sum_set found _
  induction entries generalizing map with
  | nil => simp
  | cons entry rest ih =>
    rw [List.foldl_cons, ih, added map entry (known entry List.mem_cons_self), List.map_cons,
      List.sum_cons, add_assoc]
    intro later member
    rw [keys_addTo]
    exact known later (List.mem_cons_of_mem _ member)

end Adding

end KeyedMap

/-! ## Classes in order -/

variable {α κ ρ : Type} [DecidableEq κ] [Preorder ρ]

/-- The classes of a list in their order, put behind each other, are the list. -/
theorem flatMap_filter_eq {order : List κ} {rank : κ → ρ} {key : α → κ} {items : List α}
    (ascending : order.Pairwise fun former latter => rank former < rank latter)
    (inOrder : items.Pairwise fun former latter => rank (key former) ≤ rank (key latter))
    (known : ∀ item ∈ items, key item ∈ order) :
    order.flatMap (fun wanted => items.filter fun item => key item = wanted) = items := by
  induction items with
  | nil => simp
  | cons first rest ih =>
    obtain ⟨least, inOrder⟩ := List.pairwise_cons.mp inOrder
    have whole := ih inOrder fun item member => known item (List.mem_cons_of_mem _ member)
    -- No item is in a class before the first one's, and the first is in none after it.
    obtain ⟨before, after, rfl⟩ := List.append_of_mem (known first List.mem_cons_self)
    obtain ⟨_, later, earlier⟩ := List.pairwise_append.mp ascending
    have later := (List.pairwise_cons.mp later).1
    have skipped : ∀ wanted ∈ before, key first ≠ wanted := by
      rintro wanted member rfl
      exact lt_irrefl _ (earlier _ member _ List.mem_cons_self)
    have passed : ∀ wanted ∈ after, key first ≠ wanted := by
      rintro wanted member rfl
      exact lt_irrefl _ (later _ member)
    have none : before.flatMap (fun wanted => rest.filter fun item => key item = wanted) = [] := by
      apply List.flatMap_eq_nil_iff.mpr
      intro wanted member
      apply List.filter_eq_nil_iff.mpr
      intro item inRest same
      have below := earlier wanted member (key first) List.mem_cons_self
      have same : key item = wanted := by simpa using same
      subst same
      exact absurd (lt_of_le_of_lt (least item inRest) below) (lt_irrefl _)
    rw [List.flatMap_append, List.flatMap_cons, none, List.nil_append] at whole
    have unmoved : ∀ classes : List κ, (∀ wanted ∈ classes, key first ≠ wanted) →
        classes.flatMap (fun wanted => (first :: rest).filter fun item => key item = wanted) =
          classes.flatMap fun wanted => rest.filter fun item => key item = wanted := by
      intro classes apart
      apply List.flatMap_congr
      intro wanted member
      rw [List.filter_cons_of_neg (by simpa using apart wanted member)]
    rw [List.flatMap_append, List.flatMap_cons, unmoved before skipped, unmoved after passed, none,
      List.filter_cons_of_pos (by simp), List.nil_append, List.cons_append, whole]

/-! ## Sorting -/

/-- Sorting leaves the entries of a tie as they stand. -/
theorem filter_insertionSort {le : α → α → Prop} [DecidableRel le] {tied : α → Bool}
    (tie : ∀ former latter, tied former → tied latter → le former latter) (items : List α) :
    (items.insertionSort le).filter tied = items.filter tied := by
  have ordered : (items.filter tied).Pairwise le := by
    apply List.Pairwise.imp_of_mem (R := fun _ _ => True)
    · intro former latter member member' _
      exact tie _ _ (List.mem_filter.mp member).2 (List.mem_filter.mp member').2
    · exact List.pairwise_of_forall fun _ _ => trivial
  have kept := (List.sublist_insertionSort ordered List.filter_sublist).filter tied
  rw [List.filter_filter] at kept
  simp only [Bool.and_self] at kept
  have size := ((List.perm_insertionSort le items).filter tied).length_eq
  exact (kept.eq_of_length size.symm).symm

end EventaApi.Library
