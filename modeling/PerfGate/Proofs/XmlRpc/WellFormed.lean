import Mathlib.Data.List.Sort
import PerfGate.Text.Blank
import PerfGate.XmlRpc.Value

/-!
# Well-formed values

A value is `WellFormed` if every struct in it lists its members in the order of their names, each
name once, as `Value.ofMembers` makes them. `Value.trimmed` takes the blanks off both ends of binary
data and points in time, at every depth, and changes nothing else.
-/

namespace PerfGate.XmlRpc

open Std

namespace Value

mutual

/-- Members stand in the order of their names, each name once, at every depth. -/
def WellFormed : Value → Prop
  | array items => WellFormedItems items
  | struct members => members.Pairwise (fun m n => m.1 < n.1) ∧ WellFormedMembers members
  | _ => True

/-- All items are well-formed. -/
def WellFormedItems : List Value → Prop
  | [] => True
  | item :: items => item.WellFormed ∧ WellFormedItems items

/-- The values of all members are well-formed. -/
def WellFormedMembers : List (String × Value) → Prop
  | [] => True
  | (_, value) :: members => value.WellFormed ∧ WellFormedMembers members

end

mutual

/-- The value without the blanks around binary data and points in time. -/
def trimmed : Value → Value
  | base64 s => base64 (Text.trim s)
  | dateTime s => dateTime (Text.trim s)
  | array items => array (trimmedItems items)
  | struct members => struct (trimmedMembers members)
  | v => v

/-- The items, each of them trimmed. -/
def trimmedItems : List Value → List Value
  | [] => []
  | item :: items => item.trimmed :: trimmedItems items

/-- The members with their values trimmed; names are kept as they are. -/
def trimmedMembers : List (String × Value) → List (String × Value)
  | [] => []
  | (name, value) :: members => (name, value.trimmed) :: trimmedMembers members

end

lemma map_fst_trimmedMembers : ∀ members : List (String × Value),
    (trimmedMembers members).map Prod.fst = members.map Prod.fst
  | [] => rfl
  | (name, value) :: members => by
    rw [trimmedMembers, List.map_cons, List.map_cons, map_fst_trimmedMembers members]

/-- The order of names, as the map of members compares them. -/
def NameBefore (m n : String × Value) : Prop :=
  compare m.1 n.1 = .lt

lemma nodup_of_nameBefore {members : List (String × Value)} (h : members.Pairwise NameBefore) :
    members.Nodup := by
  refine h.imp fun {m n} before e => ?_
  rw [NameBefore, e, ReflOrd.compare_self] at before
  cases before

/-- Members are listed by a struct in the order of their names, in whatever order they come. -/
lemma ofMembers_of_perm {members order : List (String × Value)}
    (h : members.Pairwise fun m n => m.1 < n.1) (perm : order.Perm members) :
    ofMembers order = struct members := by
  have ordered : members.Pairwise NameBefore := h.imp fun lt => compareOfLessAndEq_eq_lt.2 lt
  have apart : members.Pairwise fun m n => ¬ compare m.1 n.1 = .eq :=
    ordered.imp fun {m n} before e => by
      rw [NameBefore, e] at before
      cases before
  have distinct : order.Pairwise fun m n => ¬ compare m.1 n.1 = .eq :=
    (perm.pairwise_iff fun {m n} ne e => ne (OrientedCmp.eq_symm e)).2 apart
  have listed : (ExtTreeMap.ofList order).toList.Pairwise NameBefore :=
    ExtTreeMap.ordered_keys_toList
  have same : ∀ m, m ∈ (ExtTreeMap.ofList order).toList ↔ m ∈ members := by
    rintro ⟨name, value⟩
    rw [ExtTreeMap.mem_toList_iff_getElem?_eq_some, ← perm.mem_iff]
    constructor
    · intro found
      have contained : name ∈ ExtTreeMap.ofList order :=
        ExtTreeMap.mem_iff_isSome_getElem?.2 (by rw [found]; rfl)
      rw [ExtTreeMap.mem_ofList, List.contains_iff_mem, List.mem_map] at contained
      obtain ⟨⟨_, value'⟩, mem, rfl⟩ := contained
      have found' := ExtTreeMap.getElem?_ofList_of_mem ReflOrd.compare_self distinct mem
      rw [found] at found'
      cases found'
      exact mem
    · exact fun mem => ExtTreeMap.getElem?_ofList_of_mem ReflOrd.compare_self distinct mem
  have kept : (ExtTreeMap.ofList order).toList = members := by
    -- there is only one list with these members in the order of their names
    refine List.Perm.eq_of_pairwise (fun m n _ _ before after => ?_) listed ordered
      ((List.perm_ext_iff_of_nodup (nodup_of_nameBefore listed) (nodup_of_nameBefore ordered)).2
        same)
    rw [NameBefore, OrientedOrd.eq_swap] at before
    rw [NameBefore] at after
    rw [after] at before
    cases before
  rw [ofMembers, kept]

/-- Members in the order of their names are kept by a struct as they are. -/
lemma ofMembers_of_pairwise {members : List (String × Value)}
    (h : members.Pairwise fun m n => m.1 < n.1) : ofMembers members = struct members :=
  ofMembers_of_perm h (.refl members)

end Value

end PerfGate.XmlRpc
