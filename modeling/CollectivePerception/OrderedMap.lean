/-
This file defines finite maps whose entries are kept in strictly ascending order of
their keys. The order of the entries is part of the type, so two maps are equal when
their entries are, and a walk over two maps meets their keys in the same order. Each
operation comes with the lemma that says what it does to a look-up.
-/

namespace CollectivePerception

/-! ### Keys -/

/-- A type whose values are compared by a strict linear order. -/
class OrderedKey (Key : Type) where
  precedes : Key → Key → Bool
  irreflexive : ∀ key, precedes key key = false
  transitive : ∀ first second third,
    precedes first second = true → precedes second third = true → precedes first third = true
  connected : ∀ first second,
    precedes first second = false → precedes second first = false → first = second

namespace OrderedKey

variable {Key : Type} [OrderedKey Key]

theorem ne_of_precedes {first second : Key} (before : precedes first second = true) :
    first ≠ second := by
  intro equal
  rw [equal, irreflexive] at before
  exact Bool.false_ne_true before

theorem asymmetric {first second : Key} (before : precedes first second = true) :
    precedes second first = false := by
  cases after : precedes second first with
  | false => rfl
  | true =>
    have loop := transitive first second first before after
    rw [irreflexive] at loop
    exact absurd loop Bool.false_ne_true

/-- What a key precedes is preceded by every key that it does not precede. -/
theorem precedes_of_not_precedes {first second third : Key}
    (notBefore : ¬precedes first second = true) (before : precedes first third = true) :
    precedes second third = true := by
  cases after : precedes second third with
  | true => rfl
  | false =>
    cases reverse : precedes third second with
    | true => exact absurd (transitive _ _ _ before reverse) notBefore
    | false =>
      rw [connected _ _ after reverse] at notBefore
      exact absurd before notBefore

end OrderedKey

instance : OrderedKey Nat where
  precedes first second := decide (first < second)
  irreflexive key := by simp
  transitive first second third before after := by
    simp only [decide_eq_true_eq] at *
    omega
  connected first second before after := by
    simp only [decide_eq_false_iff_not] at *
    omega

open OrderedKey

/-! ### Maps -/

/-- A finite map as the list of its entries, in strictly ascending order of keys. -/
structure OrderedMap (Key : Type) [OrderedKey Key] (Value : Type) where
  entries : List (Key × Value)
  ascending : entries.Pairwise fun first second => precedes first.1 second.1 = true

namespace OrderedMap

variable {Key : Type} [OrderedKey Key] {Value Other : Type}

/-- The map without entries. -/
def empty : OrderedMap Key Value := ⟨[], List.Pairwise.nil⟩

instance : Inhabited (OrderedMap Key Value) := ⟨empty⟩
instance : EmptyCollection (OrderedMap Key Value) := ⟨empty⟩

theorem ext {first second : OrderedMap Key Value} (equal : first.entries = second.entries) :
    first = second := by
  cases first
  cases second
  simp_all

def size (map : OrderedMap Key Value) : Nat := map.entries.length

def isEmpty (map : OrderedMap Key Value) : Bool := map.entries.isEmpty

def keys (map : OrderedMap Key Value) : List Key := map.entries.map (·.1)

def values (map : OrderedMap Key Value) : List Value := map.entries.map (·.2)

/-- The value of the first entry with the key. -/
def lookup (key : Key) : List (Key × Value) → Option Value
  | [] => none
  | (other, value) :: rest =>
    if precedes other key then lookup key rest
    else if precedes key other then none
    else some value

def get? (map : OrderedMap Key Value) (key : Key) : Option Value :=
  lookup key map.entries

def contains (map : OrderedMap Key Value) (key : Key) : Bool :=
  (map.get? key).isSome

/-! ### Insertion -/

/-- The entries with the value of one key set, at the place of that key. -/
def insertEntry (key : Key) (value : Value) : List (Key × Value) → List (Key × Value)
  | [] => [(key, value)]
  | (other, previous) :: rest =>
    if precedes other key then (other, previous) :: insertEntry key value rest
    else if precedes key other then (key, value) :: (other, previous) :: rest
    else (key, value) :: rest

theorem mem_insertEntry {key : Key} {value : Value} {entries : List (Key × Value)}
    {entry : Key × Value} (member : entry ∈ insertEntry key value entries) :
    entry = (key, value) ∨ entry ∈ entries := by
  induction entries with
  | nil => simpa [insertEntry] using member
  | cons head rest inductionHypothesis =>
    unfold insertEntry at member
    split at member
    · rcases List.mem_cons.mp member with equal | inner
      · exact .inr (equal ▸ List.mem_cons_self)
      · exact (inductionHypothesis inner).imp_right (List.mem_cons_of_mem _)
    · split at member
      · rcases List.mem_cons.mp member with equal | inner
        · exact .inl equal
        · exact .inr inner
      · rcases List.mem_cons.mp member with equal | inner
        · exact .inl equal
        · exact .inr (List.mem_cons_of_mem _ inner)

theorem insertEntry_ascending (key : Key) (value : Value) {entries : List (Key × Value)}
    (ascending : entries.Pairwise fun first second => precedes first.1 second.1 = true) :
    (insertEntry key value entries).Pairwise
      fun first second => precedes first.1 second.1 = true := by
  induction entries with
  | nil => simp [insertEntry]
  | cons head rest inductionHypothesis =>
    have beyond := (List.pairwise_cons.mp ascending).1
    have tail := (List.pairwise_cons.mp ascending).2
    unfold insertEntry
    split
    · rename_i before
      refine List.pairwise_cons.mpr ⟨fun entry member => ?_, inductionHypothesis tail⟩
      rcases mem_insertEntry member with equal | inner
      · rw [equal]
        exact before
      · exact beyond entry inner
    · split
      · rename_i after
        refine List.pairwise_cons.mpr ⟨fun entry member => ?_, ascending⟩
        rcases List.mem_cons.mp member with equal | inner
        · rw [equal]
          exact after
        · exact transitive _ _ _ after (beyond entry inner)
      · rename_i notBefore notAfter
        have same : head.1 = key :=
          connected _ _ (by simpa using notBefore) (by simpa using notAfter)
        refine List.pairwise_cons.mpr ⟨fun entry member => ?_, tail⟩
        have := beyond entry member
        rwa [same] at this

/-- The map with the value of one key set; a value that the key had is replaced. -/
def insert (map : OrderedMap Key Value) (key : Key) (value : Value) : OrderedMap Key Value :=
  ⟨insertEntry key value map.entries, insertEntry_ascending key value map.ascending⟩

/-- The map that results from inserting the entries one after the other. -/
def ofList (entries : List (Key × Value)) : OrderedMap Key Value :=
  entries.foldl (fun map entry => map.insert entry.1 entry.2) empty

/-! ### Restriction and change of values -/

/-- The map whose entries are the images of the entries that have one. -/
def filterMap (change : Key → Value → Option Other) (map : OrderedMap Key Value) :
    OrderedMap Key Other :=
  ⟨map.entries.filterMap fun entry => (change entry.1 entry.2).map (entry.1, ·), by
    refine List.Pairwise.filterMap _ (fun first second before image found image' found' => ?_)
      map.ascending
    simp only [Option.map_eq_some_iff] at found found'
    obtain ⟨_, _, rfl⟩ := found
    obtain ⟨_, _, rfl⟩ := found'
    exact before⟩

/-- The map of the entries that satisfy a condition. -/
def filter (condition : Key → Value → Bool) (map : OrderedMap Key Value) :
    OrderedMap Key Value :=
  ⟨map.entries.filter fun entry => condition entry.1 entry.2, map.ascending.filter _⟩

/-- The map without one key. -/
def erase (map : OrderedMap Key Value) (key : Key) : OrderedMap Key Value :=
  map.filter fun other _ => precedes other key || precedes key other

/-! ### Look-ups -/

theorem lookup_eq_none {key : Key} {entries : List (Key × Value)}
    (beyond : ∀ entry ∈ entries, precedes key entry.1 = true) : lookup key entries = none := by
  cases entries with
  | nil => rfl
  | cons head rest =>
    have before := beyond head List.mem_cons_self
    simp [lookup, before, asymmetric before]

/-- A look-up finds a value exactly if the map has that entry. -/
theorem lookup_eq_some_iff {key : Key} {value : Value} {entries : List (Key × Value)}
    (ascending : entries.Pairwise fun first second => precedes first.1 second.1 = true) :
    lookup key entries = some value ↔ (key, value) ∈ entries := by
  induction entries with
  | nil => simp [lookup]
  | cons head rest inductionHypothesis =>
    have beyond := (List.pairwise_cons.mp ascending).1
    have tail := inductionHypothesis (List.pairwise_cons.mp ascending).2
    unfold lookup
    split
    · rename_i before
      rw [tail, List.mem_cons]
      constructor
      · exact .inr
      · rintro (equal | inner)
        · rw [← equal] at before
          simp [irreflexive] at before
        · exact inner
    · split
      · rename_i after
        constructor
        · intro absent
          cases absent
        · intro member
          rcases List.mem_cons.mp member with equal | inner
          · rw [← equal] at after
            simp [irreflexive] at after
          · have := transitive _ _ _ after (beyond _ inner)
            simp [irreflexive] at this
      · rename_i notBefore notAfter
        have same : head.1 = key :=
          connected _ _ (by simpa using notBefore) (by simpa using notAfter)
        constructor
        · intro found
          rw [List.mem_cons]
          left
          rw [← same, ← Option.some.inj found]
        · intro member
          rcases List.mem_cons.mp member with equal | inner
          · rw [← equal]
          · have before := beyond _ inner
            simp only [same, irreflexive] at before
            exact absurd before Bool.false_ne_true

theorem get?_eq_some_iff {map : OrderedMap Key Value} {key : Key} {value : Value} :
    map.get? key = some value ↔ (key, value) ∈ map.entries :=
  lookup_eq_some_iff map.ascending

@[simp] theorem get?_empty (key : Key) : (empty : OrderedMap Key Value).get? key = none := rfl

theorem lookup_insertEntry [DecidableEq Key] (key other : Key) (value : Value)
    (entries : List (Key × Value)) :
    lookup other (insertEntry key value entries) =
      if other = key then some value else lookup other entries := by
  induction entries with
  | nil =>
    by_cases equal : other = key
    · simp [insertEntry, lookup, equal, irreflexive]
    · simp only [insertEntry, lookup, if_neg equal]
      split
      · rfl
      · split
        · rfl
        · rename_i first second
          exact absurd (connected _ _ (by simpa using second) (by simpa using first)) equal
  | cons head rest inductionHypothesis =>
    unfold insertEntry
    split
    · rename_i before
      simp only [lookup]
      split
      · exact inductionHypothesis
      · rename_i notBelow
        by_cases equal : other = key
        · rw [equal] at notBelow
          exact absurd before notBelow
        · simp [equal]
    · rename_i notBefore
      split
      · rename_i after
        by_cases equal : other = key
        · simp [lookup, equal, irreflexive]
        · rw [if_neg equal, lookup]
          split
          · rfl
          · rename_i notBelow
            split
            · rename_i below
              have below := transitive _ _ _ below after
              simp [lookup, below, asymmetric below]
            · rename_i notAbove
              exact absurd
                (connected _ _ (by simpa using notAbove) (by simpa using notBelow)) equal
      · rename_i notAfter
        have same : head.1 = key :=
          connected _ _ (by simpa using notBefore) (by simpa using notAfter)
        by_cases equal : other = key
        · simp [lookup, equal, irreflexive]
        · simp only [lookup, same, if_neg equal]
          split
          · rfl
          · rename_i notBelow
            split
            · rfl
            · rename_i notAbove
              exact absurd
                (connected _ _ (by simpa using notAbove) (by simpa using notBelow)) equal

theorem get?_insert [DecidableEq Key] (map : OrderedMap Key Value) (key other : Key)
    (value : Value) :
    (map.insert key value).get? other = if other = key then some value else map.get? other :=
  lookup_insertEntry key other value map.entries

end OrderedMap

end CollectivePerception
