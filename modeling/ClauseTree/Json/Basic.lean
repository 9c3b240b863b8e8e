import ClauseTree.Numeral.BinaryFloat

/-!
# JSON documents

A JSON value with numbers in two classes: integers between the least 64-bit
signed one and the greatest 64-bit unsigned one, and binary64 floats for
everything else.  The members of an object are kept in the order of their keys,
compared by code points, and a key stands once.
-/

namespace ClauseTree

open Numeral

/-- A JSON value. -/
inductive Json where
  | null
  | bool (value : Bool)
  | int (value : Int)
  | float (value : Binary64)
  | string (value : String)
  | array (items : List Json)
  | object (members : List (String × Json))
deriving Repr, Inhabited

namespace Json

/-- Put a member in its place; an earlier value under the same key is dropped. -/
def insertMember (key : String) (value : Json) :
    List (String × Json) → List (String × Json)
  | [] => [(key, value)]
  | (k, v) :: rest =>
      if key = k then (key, value) :: rest
      else if key < k then (key, value) :: (k, v) :: rest
      else (k, v) :: insertMember key value rest

/-- The object with the given members; of two with one key the later counts. -/
def ofMembers (members : List (String × Json)) : Json :=
  .object (members.foldl (fun sorted member => insertMember member.1 member.2 sorted) [])

mutual

/-- Equality of content: an integer is never equal to a float, and floats are
compared as numbers. -/
def same : Json → Json → Bool
  | .null, .null => true
  | .bool a, .bool b => a == b
  | .int a, .int b => a == b
  | .float a, .float b => a == b
  | .string a, .string b => a == b
  | .array a, .array b => sameItems a b
  | .object a, .object b => sameMembers a b
  | _, _ => false

/-- Equality of content, item by item. -/
def sameItems : List Json → List Json → Bool
  | [], [] => true
  | a :: as, b :: bs => same a b && sameItems as bs
  | _, _ => false

/-- Equality of content, member by member. -/
def sameMembers : List (String × Json) → List (String × Json) → Bool
  | [], [] => true
  | (k, a) :: as, (l, b) :: bs => k == l && same a b && sameMembers as bs
  | _, _ => false

end

instance : BEq Json := ⟨same⟩

/-! ### The order of the keys -/

/-- Whether the keys of members ascend, each standing once. -/
def KeysAscend (members : List (String × Json)) : Prop :=
  members.Pairwise fun a b => a.1 < b.1

private theorem mem_insertMember {key : String} {value : Json} {member : String × Json} :
    ∀ {members : List (String × Json)}, member ∈ insertMember key value members →
      member = (key, value) ∨ member ∈ members
  | [], found => .inl (List.mem_singleton.mp found)
  | (k, v) :: rest, found => by
      rw [insertMember] at found
      split at found
      next => exact (List.mem_cons.mp found).imp id (List.mem_cons_of_mem _)
      next =>
        split at found
        next => exact List.mem_cons.mp found
        next =>
          rcases List.mem_cons.mp found with first | later
          · exact .inr (first ▸ List.mem_cons_self)
          · exact (mem_insertMember later).imp id (List.mem_cons_of_mem _)

/-- Putting a member in its place keeps the keys in order. -/
theorem KeysAscend.insertMember {key : String} {value : Json} :
    ∀ {members : List (String × Json)}, KeysAscend members →
      KeysAscend (insertMember key value members)
  | [], _ => List.pairwise_singleton _ _
  | (k, v) :: rest, ascend => by
      obtain ⟨behind, others⟩ := List.pairwise_cons.mp ascend
      rw [Json.insertMember]
      split
      next same => exact List.pairwise_cons.mpr ⟨fun m member => same ▸ behind m member, others⟩
      next different =>
        split
        next before =>
          refine List.pairwise_cons.mpr ⟨fun m member => ?_, ascend⟩
          rcases List.mem_cons.mp member with rfl | later
          · exact before
          · exact String.lt_trans before (behind m later)
        next notBefore =>
          have after : k < key := String.not_le.mp fun below =>
            different (String.le_antisymm below (String.not_lt.mp notBefore))
          refine List.pairwise_cons.mpr ⟨fun m member => ?_, KeysAscend.insertMember others⟩
          rcases mem_insertMember member with rfl | later
          · exact after
          · exact behind m later

/-- An object has its keys in order, in whatever order the members were given. -/
theorem exists_ofMembers (members : List (String × Json)) :
    ∃ sorted, ofMembers members = .object sorted ∧ KeysAscend sorted := by
  refine ⟨_, rfl, ?_⟩
  suffices keeps : ∀ sorted, KeysAscend sorted → KeysAscend
      (members.foldl (fun sorted member => insertMember member.1 member.2 sorted) sorted) from
    keeps [] List.Pairwise.nil
  induction members with
  | nil => exact fun _ ascend => ascend
  | cons member rest ih => exact fun _ ascend => ih _ (KeysAscend.insertMember ascend)

end Json

end ClauseTree
