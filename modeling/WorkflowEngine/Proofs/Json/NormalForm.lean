/-
This file proves that the normal form of a value is normal, and that a record is read from the
normal form of an object as from the object itself, so long as no key occurs twice.
-/

import WorkflowEngine.Json.Record
import Mathlib.Data.List.Nodup

namespace WorkflowEngine.Json

theorem normalizeItems_map (items : List Json) : normalizeItems items = items.map normalize := by
  induction items with
  | nil => rfl
  | cons first rest inductionHypothesis =>
    rw [normalizeItems, inductionHypothesis]
    rfl

theorem normalizeMembers_map (members : List (String × Json)) :
    normalizeMembers members = members.map fun member => (member.1, member.2.normalize) := by
  induction members with
  | nil => rfl
  | cons first rest inductionHypothesis =>
    obtain ⟨key, value⟩ := first
    rw [normalizeMembers, inductionHypothesis]
    rfl

def sortMembers (members : List (String × Json)) : List (String × Json) :=
  members.foldl (fun sorted member => insertMember member.1 member.2 sorted) []

theorem normalize_object (members : List (String × Json)) :
    (object members).normalize = object (sortMembers (normalizeMembers members)) := by
  rw [normalize]
  rfl

/-- A member that is inserted is new or replaces the one of its key. -/
theorem mem_insertMember {key : String} {value : Json} {members : List (String × Json)}
    {member : String × Json} (inserted : member ∈ insertMember key value members) :
    member = (key, value) ∨ member ∈ members := by
  induction members with
  | nil => exact .inl (List.mem_singleton.mp inserted)
  | cons first rest inductionHypothesis =>
    obtain ⟨other, old⟩ := first
    unfold insertMember at inserted
    split at inserted
    · exact List.mem_cons.mp inserted
    · split at inserted
      · rcases List.mem_cons.mp inserted with same | later
        · exact .inl same
        · exact .inr (List.mem_cons_of_mem _ later)
      · rcases List.mem_cons.mp inserted with same | later
        · exact .inr (same ▸ List.mem_cons_self)
        · rcases inductionHypothesis later with same | earlier
          · exact .inl same
          · exact .inr (List.mem_cons_of_mem _ earlier)

theorem mem_sortMembers {members : List (String × Json)} {member : String × Json}
    (sorted : member ∈ sortMembers members) : member ∈ members := by
  refine List.foldlRecOn (motive := fun sorted => ∀ entry ∈ sorted, entry ∈ members) members
    (fun sorted member => insertMember member.1 member.2 sorted) ?_ ?_ member sorted
  · intro entry impossible
    cases impossible
  · intro start earlier first listed entry inserted
    rcases mem_insertMember inserted with rfl | old
    · exact listed
    · exact earlier entry old

/-- The keys of these members grow. -/
def Ascending (members : List (String × Json)) : Prop :=
  members.Pairwise fun left right => left.1 < right.1

theorem Ascending.insertMember {members : List (String × Json)} (ascending : Ascending members)
    (key : String) (value : Json) : Ascending (insertMember key value members) := by
  induction members with
  | nil => exact List.pairwise_singleton _ _
  | cons first rest inductionHypothesis =>
    obtain ⟨other, old⟩ := first
    obtain ⟨above, ascendingRest⟩ := List.pairwise_cons.mp ascending
    unfold Json.insertMember
    split
    · next less =>
      refine List.pairwise_cons.mpr ⟨?_, ascending⟩
      intro entry member
      rcases List.mem_cons.mp member with rfl | later
      · exact less
      · exact String.lt_trans less (above entry later)
    · next notLess =>
      split
      · next same =>
        refine List.pairwise_cons.mpr ⟨?_, ascendingRest⟩
        intro entry member
        rw [same]
        exact above entry member
      · next different =>
        have greater : other < key :=
          Std.lt_of_le_of_ne (String.not_lt.mp notLess) (Ne.symm different)
        refine List.pairwise_cons.mpr ⟨?_, inductionHypothesis ascendingRest⟩
        intro entry member
        rcases mem_insertMember member with rfl | old
        · exact greater
        · exact above entry old

theorem sortMembers_ascending (members : List (String × Json)) :
    Ascending (sortMembers members) := by
  apply List.foldlRecOn members
  · exact List.Pairwise.nil
  · intro start ascending first _
    exact ascending.insertMember first.1 first.2

/-- A member with a new key is put between the others. -/
theorem insertMember_perm {key : String} {members : List (String × Json)}
    (new : key ∉ members.map Prod.fst) (value : Json) :
    (insertMember key value members).Perm ((key, value) :: members) := by
  induction members with
  | nil => exact List.Perm.refl _
  | cons first rest inductionHypothesis =>
    obtain ⟨other, old⟩ := first
    rw [List.map_cons, List.mem_cons, not_or] at new
    unfold insertMember
    split
    · exact List.Perm.refl _
    · rw [if_neg new.1]
      exact ((inductionHypothesis new.2).cons _).trans (List.Perm.swap _ _ _)

/-- Members with distinct keys are put into order, and none is lost. -/
theorem sortMembers_perm {members : List (String × Json)}
    (distinct : (members.map Prod.fst).Nodup) : (sortMembers members).Perm members := by
  have each (start : List (String × Json)) (apart : ((start ++ members).map Prod.fst).Nodup) :
      (members.foldl (fun sorted member => insertMember member.1 member.2 sorted) start).Perm
        (start ++ members) := by
    clear distinct
    induction members generalizing start with
    | nil => rw [List.append_nil, List.foldl_nil]
    | cons first rest inductionHypothesis =>
      obtain ⟨key, value⟩ := first
      have new : key ∉ start.map Prod.fst := by
        rw [List.map_append, List.map_cons] at apart
        intro listed
        exact List.disjoint_of_nodup_append apart listed List.mem_cons_self
      have moved : (insertMember key value start ++ rest).Perm (start ++ (key, value) :: rest) :=
        ((insertMember_perm new value).append_right rest).trans List.perm_middle.symm
      exact (inductionHypothesis _ ((moved.map Prod.fst).nodup_iff.mpr apart)).trans moved
  exact each [] distinct

/-- Ascending members are in order. -/
theorem Ascending.sorted {members : List (String × Json)} (ascending : Ascending members) :
    sortMembers members = members := by
  have distinct : (members.map Prod.fst).Nodup := by
    refine List.Pairwise.map Prod.fst ?_ ascending
    intro left right less same
    rw [same] at less
    exact String.lt_irrefl _ less
  apply List.Perm.eq_of_pairwise _ (sortMembers_ascending members) ascending
    (sortMembers_perm distinct)
  intro left right _ _ less greater
  exact absurd greater (String.lt_asymm less)

mutual

/-- The normal form of a value is normal. -/
theorem normalize_normalize : (value : Json) → value.normalize.normalize = value.normalize
  | array items => by
    simp only [normalize]
    rw [normalizeItems_normalized]
  | object members => by
    have fixed : normalizeMembers (sortMembers (normalizeMembers members)) =
        sortMembers (normalizeMembers members) := by
      rw [normalizeMembers_map (sortMembers _)]
      refine (List.map_congr_left ?_).trans (List.map_id _)
      intro member sorted
      have normal := normalizeMembers_normal members member (mem_sortMembers sorted)
      exact Prod.ext rfl normal
    rw [normalize_object, normalize_object, fixed, (sortMembers_ascending _).sorted]
  | null => rfl
  | bool _ => rfl
  | number _ => rfl
  | string _ => rfl

theorem normalizeItems_normalized : (items : List Json) →
    normalizeItems (normalizeItems items) = normalizeItems items
  | [] => rfl
  | first :: rest => by
    simp only [normalizeItems]
    rw [normalize_normalize first, normalizeItems_normalized rest]

theorem normalizeMembers_normal : (members : List (String × Json)) →
    ∀ member ∈ normalizeMembers members, member.2.normalize = member.2
  | [], _, impossible => nomatch impossible
  | (key, first) :: rest, member, listed => by
    rcases List.mem_cons.mp listed with rfl | later
    · exact normalize_normalize first
    · exact normalizeMembers_normal rest member later

end

namespace Record

/-- Where names are distinct, a value is found whatever the order. -/
theorem occurrences_perm {left right : List (String × Json)} (shuffled : left.Perm right)
    (isNamed : String → Bool) :
    occurrences left isNamed = occurrences right isNamed ∨
    (∃ first second rest, occurrences left isNamed = first :: second :: rest) ∧
      ∃ first second rest, occurrences right isNamed = first :: second :: rest := by
  have values : (occurrences left isNamed).Perm (occurrences right isNamed) :=
    (shuffled.filter _).map _
  have length := values.length_eq
  match leftShape : occurrences left isNamed, rightShape : occurrences right isNamed with
  | [], _ => exact .inl (leftShape ▸ rightShape ▸ values).nil_eq
  | [value], _ => exact .inl (List.singleton_perm.mp (leftShape ▸ rightShape ▸ values))
  | _ :: _ :: _, [] => simp [leftShape, rightShape] at length
  | _ :: _ :: _, [_] => simp [leftShape, rightShape] at length
  | _ :: _ :: _, _ :: _ :: _ => exact .inr ⟨⟨_, _, _, rfl⟩, _, _, _, rfl⟩

/-- The fields of an object are gathered whatever the order of its members. -/
theorem ofMembers?_perm {left right : List (String × Json)} (shuffled : left.Perm right)
    (fields : List Field) : ofMembers? left fields = ofMembers? right fields := by
  induction fields with
  | nil => rfl
  | cons field rest inductionHypothesis =>
    unfold ofMembers?
    rw [inductionHypothesis]
    rcases occurrences_perm shuffled field.isNamed with
      same | ⟨⟨_, _, _, leftSeveral⟩, _, _, _, rightSeveral⟩
    · rw [same]
    · rw [leftSeveral, rightSeveral]

theorem read?_perm {left right : List (String × Json)} (shuffled : left.Perm right)
    (fields : List Field) : read? fields (object left) = read? fields (object right) := by
  unfold read?
  dsimp only
  rw [ofMembers?_perm shuffled]

end Record

/-- The normal form of an object with distinct keys has the normal forms of its members. -/
theorem normalize_perm {members : List (String × Json)} (distinct : (members.map Prod.fst).Nodup) :
    ∃ shuffled, (object members).normalize = object shuffled ∧
      shuffled.Perm (normalizeMembers members) := by
  refine ⟨_, normalize_object members, sortMembers_perm ?_⟩
  rw [normalizeMembers_map, List.map_map]
  exact distinct

namespace Record

/-- A record is read from the normal forms of its members. -/
theorem read?_normalize {members : List (String × Json)} (distinct : (members.map Prod.fst).Nodup)
    (fields : List Field) : read? fields (object members).normalize =
      read? fields (object (normalizeMembers members)) := by
  obtain ⟨sorted, shape, shuffled⟩ := normalize_perm distinct
  rw [shape, read?_perm shuffled]

/-- Distinct members may be brought into order before they are decoded. -/
theorem decode_normalize {A : Type} (decode : Json → Option A) {fields : List Field}
    {next : Record → Option A} (reads : ∀ value, decode value = (read? fields value).bind next)
    {members : List (String × Json)} (distinct : (members.map Prod.fst).Nodup) :
    decode (object members).normalize = decode (object (normalizeMembers members)) := by
  rw [reads, reads, read?_normalize distinct]

/-- A value that is there is read as present. -/
theorem nullable_some {A : Type} {decode : Json → Option A} {value : Json} {content : A}
    (strict : decode .null = none) (read : decode value = some content) :
    nullable decode value = some (some content) := by
  unfold nullable
  split
  · rw [strict] at read
    cases read
  · rw [read, Option.map_some]

end Record

/-- A tagged value is read from its members in any order, and the other members are left. -/
theorem Tagged.read?_perm {key tag : String} {cases : List String}
    {members rest : List (String × Json)} (form : TagForm)
    (shuffled : members.Perm ((key, string tag) :: rest)) (single : key ∉ rest.map Prod.fst)
    (known : cases.contains tag = true) :
    ∃ content, Tagged.read? form key cases (object members) = some ⟨tag, object content⟩ ∧
      content.Perm rest := by
  have others : ((key, string tag) :: rest).filter (fun member => member.1 != key) = rest := by
    rw [List.filter_cons_of_neg (by simp), List.filter_eq_self]
    intro member listed
    rw [bne_iff_ne]
    exact fun same => single (List.mem_map.mpr ⟨member, listed, same⟩)
  have named : Record.occurrences members (fun other => other == key) = [string tag] := by
    have alone := (shuffled.filter fun member => member.1 == key).map Prod.snd
    have absent : rest.filter (fun member => member.1 == key) = [] := by
      rw [List.filter_eq_nil_iff]
      intro member listed same
      exact single (List.mem_map.mpr ⟨member, listed, by simpa using same⟩)
    rw [List.filter_cons_of_pos (by simp), absent] at alone
    exact List.perm_singleton.mp alone
  refine ⟨members.filter fun member => member.1 != key, ?_, ?_⟩
  · unfold Tagged.read?
    dsimp only
    rw [named]
    dsimp only
    rw [case?, if_pos known, Option.map_some]
  · have left := shuffled.filter fun member => member.1 != key
    rwa [others] at left

/-- A tagged value is read from the normal form of its members. -/
theorem Tagged.read?_normalize {key tag : String} {cases : List String}
    {rest : List (String × Json)} (form : TagForm) (distinct : (key :: rest.map Prod.fst).Nodup)
    (known : cases.contains tag = true) :
    ∃ content, Tagged.read? form key cases (object ((key, string tag) :: rest)).normalize =
        some ⟨tag, object content⟩ ∧
      content.Perm (normalizeMembers rest) := by
  obtain ⟨sorted, shape, shuffled⟩ := @normalize_perm ((key, string tag) :: rest) distinct
  rw [shape]
  apply Tagged.read?_perm form shuffled _ known
  rw [normalizeMembers_map, List.map_map]
  exact (List.nodup_cons.mp distinct).1

theorem natBelow?_ofNat {bound value : Nat} (fits : value < bound) :
    natBelow? bound (ofNat value) = some value := by
  have read : (ofNat value).nat? = some value := by
    change (if (0 : Int) ≤ value then some (value : Int).toNat else none) = some value
    rw [if_pos (Int.natCast_nonneg value), Int.toNat_natCast]
  rw [natBelow?, read, Option.bind_some, if_pos fits]

theorem text?_normalize (text : String) : text? (string text).normalize = some text := rfl

theorem bool?_normalize (value : Bool) : bool? (bool value).normalize = some value := rfl

theorem uint32?_normalize (value : UInt32) : uint32? (ofUInt32 value).normalize = some value := by
  change (natBelow? UInt32.size (ofNat value.toNat)).map UInt32.ofNat = some value
  rw [natBelow?_ofNat value.toNat_lt, Option.map_some, UInt32.ofNat_toNat]

theorem uint64?_normalize (value : UInt64) : uint64? (ofUInt64 value).normalize = some value := by
  change (natBelow? UInt64.size (ofNat value.toNat)).map UInt64.ofNat = some value
  rw [natBelow?_ofNat value.toNat_lt, Option.map_some, UInt64.ofNat_toNat]

/-- A list is read from the normal forms of its items. -/
theorem list?_normalize {A : Type} {encode : A → Json} {decode : Json → Option A}
    {contents : List A}
    (read : ∀ content ∈ contents, decode (encode content).normalize = some content) :
    list? decode (array (contents.map encode)).normalize = some contents := by
  rw [normalize, normalizeItems_map, List.map_map]
  change (contents.map _).mapM decode = some contents
  induction contents with
  | nil => rfl
  | cons first rest inductionHypothesis =>
    have later := inductionHypothesis fun content member =>
      read content (List.mem_cons_of_mem first member)
    rw [List.map_cons, List.mapM_cons, later]
    change (decode (encode first).normalize >>= _) = _
    rw [read first List.mem_cons_self]
    rfl

/-- Every content of a list has been read from one of the items. -/
theorem mem_mapM {A : Type} {decode : Json → Option A} {items : List Json} {contents : List A}
    (read : items.mapM decode = some contents) {content : A} (member : content ∈ contents) :
    ∃ item ∈ items, decode item = some content := by
  induction items generalizing contents with
  | nil =>
    obtain rfl := Option.some.inj read
    cases member
  | cons first rest inductionHypothesis =>
    rw [List.mapM_cons] at read
    obtain ⟨head, firstRead, read⟩ := Option.bind_eq_some_iff.mp read
    obtain ⟨tail, restRead, built⟩ := Option.bind_eq_some_iff.mp read
    obtain rfl := Option.some.inj built
    rcases List.mem_cons.mp member with rfl | later
    · exact ⟨first, List.mem_cons_self, firstRead⟩
    · obtain ⟨item, listed, itemRead⟩ := inductionHypothesis restRead later
      exact ⟨item, List.mem_cons_of_mem first listed, itemRead⟩

def perhaps? {A : Type} (decode : Json → Option A) : Option Json → Option (Option A)
  | none => some none
  | some value => Record.nullable decode value

/-- A member that may be absent is read as it was written. -/
theorem perhaps?_normalize {A : Type} {encode : A → Json} {decode : Json → Option A}
    (strict : decode .null = none)
    (read : ∀ content, decode (encode content).normalize = some content) (content : Option A) :
    perhaps? decode ((content.map encode).map normalize) = some content := by
  cases content with
  | none => rfl
  | some content => exact Record.nullable_some strict (read content)

theorem normalizeMembers_append (left right : List (String × Json)) :
    normalizeMembers (left ++ right) = normalizeMembers left ++ normalizeMembers right := by
  simp only [normalizeMembers_map, List.map_append]

theorem normalizeMembers_optional (key : String) (value : Option Json) :
    normalizeMembers (optionalMember key value) = optionalMember key (value.map normalize) := by
  cases value with
  | none => rfl
  | some value => rfl

end WorkflowEngine.Json
