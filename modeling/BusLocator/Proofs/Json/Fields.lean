import BusLocator.Json.Basic
import Mathlib.Data.String.Basic
/-!
# Members in order

An object that is read is gathered member by member with `put`. Members that come in ascending order
are gathered as they are (`gather_of_ascending`); of members in any order the last one with a key is
the one that is found, and taking a key out before or after gathering is the same
(`filter_gather`).
-/

namespace BusLocator.Json

/-- Ascending order of the keys, each key once. -/
def Ascending (fields : Fields) : Prop :=
  fields.Pairwise (·.1 < ·.1)

instance (fields : Fields) : Decidable (Ascending fields) :=
  inferInstanceAs (Decidable (fields.Pairwise (·.1 < ·.1)))

def gather (start members : Fields) : Fields :=
  members.foldl (fun gathered member => put member.1 member.2 gathered) start

variable {key k : String} {value : Json} {start members fields : Fields}

theorem gather_cons (start : Fields) (member : String × Json) (members : Fields) :
    gather start (member :: members) = gather (put member.1 member.2 start) members := rfl

theorem gather_append (start members more : Fields) :
    gather start (members ++ more) = gather (gather start members) more :=
  List.foldl_append

/-! ### Looking a key up -/

theorem lookup_put (key k : String) (value : Json) (fields : Fields) :
    (put key value fields).lookup k = if k = key then some value else fields.lookup k := by
  induction fields with
  | nil =>
      by_cases hk : k = key
      · simp [put, hk]
      · simp [put, hk, List.lookup_cons, beq_false_of_ne hk]
  | cons field fields ih =>
      obtain ⟨name, held⟩ := field
      unfold put
      split
      · by_cases hk : k = key <;> simp [List.lookup_cons, hk, beq_false_of_ne]
      · split
        · rename_i hname
          subst hname
          by_cases hk : k = key <;> simp [List.lookup_cons, hk, beq_false_of_ne]
        · rename_i hname
          rw [List.lookup_cons, List.lookup_cons, ih]
          by_cases hk : k = key
          · simp [hk, beq_false_of_ne hname]
          · simp [hk]

theorem lookup_gather_of_forall_ne (h : ∀ member ∈ members, member.1 ≠ key) :
    (gather start members).lookup key = start.lookup key := by
  induction members generalizing start with
  | nil => rfl
  | cons member members ih =>
      have hne : key ≠ member.1 := (h member List.mem_cons_self).symm
      rw [gather_cons, ih fun m hm => h m (List.mem_cons_of_mem member hm), lookup_put, if_neg hne]

theorem lookup_gather_of_last (start before after : Fields)
    (h : ∀ member ∈ after, member.1 ≠ key) :
    (gather start (before ++ (key, value) :: after)).lookup key = some value := by
  rw [gather_append, gather_cons, lookup_gather_of_forall_ne h, lookup_put, if_pos rfl]

/-- Of several members with one key, the last one is found. -/
theorem lookup_gather (key : String) (start members : Fields) :
    (gather start members).lookup key = (members.reverse.lookup key).or (start.lookup key) := by
  induction members generalizing start with
  | nil => rfl
  | cons member members ih =>
      obtain ⟨name, value⟩ := member
      rw [gather_cons, ih, lookup_put, List.reverse_cons, List.lookup_append, Option.or_assoc]
      by_cases hkey : key = name
      · simp [hkey]
      · simp [hkey, List.lookup_cons, beq_false_of_ne]

/-! ### Order -/

theorem mem_put {field : String × Json} (h : field ∈ put key value fields) :
    field = (key, value) ∨ field ∈ fields := by
  induction fields with
  | nil => exact .inl (List.mem_singleton.1 h)
  | cons other fields ih =>
      unfold put at h
      split at h
      · exact List.mem_cons.1 h
      · split at h
        · exact (List.mem_cons.1 h).imp_right (List.mem_cons_of_mem other)
        · rcases List.mem_cons.1 h with rfl | h
          · exact .inr List.mem_cons_self
          · exact (ih h).imp_right (List.mem_cons_of_mem other)

theorem ascending_put (h : Ascending fields) : Ascending (put key value fields) := by
  induction fields with
  | nil => exact List.pairwise_singleton _ _
  | cons field fields ih =>
      obtain ⟨name, held⟩ := field
      obtain ⟨hfirst, hrest⟩ := List.pairwise_cons.1 h
      unfold put
      split
      · rename_i hlt
        refine List.pairwise_cons.2 ⟨?_, h⟩
        intro other hother
        rcases List.mem_cons.1 hother with rfl | hother
        · exact hlt
        · exact hlt.trans (hfirst other hother)
      · rename_i hle
        split
        · rename_i hname
          subst hname
          exact List.pairwise_cons.2 ⟨hfirst, hrest⟩
        · rename_i hname
          refine List.pairwise_cons.2 ⟨?_, ih hrest⟩
          intro other hother
          rcases mem_put hother with rfl | hother
          · exact lt_of_le_of_ne (not_lt.1 hle) (Ne.symm hname)
          · exact hfirst other hother

theorem put_of_forall_lt (h : ∀ field ∈ fields, field.1 < key) :
    put key value fields = fields ++ [(key, value)] := by
  induction fields with
  | nil => rfl
  | cons field fields ih =>
      have hlt : field.1 < key := h field List.mem_cons_self
      show (if key < field.1 then _ else if key = field.1 then _ else _) = _
      rw [if_neg hlt.asymm, if_neg hlt.ne', ih fun f hf => h f (List.mem_cons_of_mem field hf)]
      rfl

theorem gather_of_ascending_append (h : Ascending (start ++ fields)) :
    gather start fields = start ++ fields := by
  induction fields generalizing start with
  | nil => exact (List.append_nil start).symm
  | cons field fields ih =>
      have hlast : ∀ other ∈ start, other.1 < field.1 := by
        intro other hother
        exact (List.pairwise_append.1 h).2.2 other hother field List.mem_cons_self
      rw [gather_cons, put_of_forall_lt hlast, ih (by simpa using h)]
      simp

theorem gather_of_ascending (h : Ascending fields) : gather [] fields = fields :=
  gather_of_ascending_append h

theorem lookup_eq_some_iff_mem (h : Ascending fields) :
    fields.lookup key = some value ↔ (key, value) ∈ fields := by
  constructor
  · intro hlookup
    obtain ⟨before, after, rfl, -⟩ := List.lookup_eq_some_iff.1 hlookup
    exact List.mem_append_right before List.mem_cons_self
  · intro hmem
    obtain ⟨before, after, rfl⟩ := List.append_of_mem hmem
    refine List.lookup_eq_some_iff.2 ⟨before, after, rfl, ?_⟩
    intro field hfield
    have hlt : field.1 < key := (List.pairwise_append.1 h).2.2 field hfield _ List.mem_cons_self
    exact bne_iff_ne.2 hlt.ne'

/-! ### Taking a key out -/

theorem filter_put_self (key : String) (value : Json) (fields : Fields) :
    (put key value fields).filter (·.1 ≠ key) = fields.filter (·.1 ≠ key) := by
  induction fields with
  | nil => simp [put]
  | cons field fields ih =>
      unfold put
      split
      · rw [List.filter_cons_of_neg (by simp)]
      · split
        · rename_i hkey
          rw [List.filter_cons_of_neg (by simp), List.filter_cons_of_neg (by simp [hkey])]
        · rw [List.filter_cons, List.filter_cons, ih]

theorem put_cons_of_lt {field : String × Json} (h : key < field.1) (fields : Fields) :
    put key value (field :: fields) = (key, value) :: field :: fields :=
  if_pos h

theorem filter_put_of_ne (hne : key ≠ k) (h : Ascending fields) :
    (put key value fields).filter (·.1 ≠ k) = put key value (fields.filter (·.1 ≠ k)) := by
  have hkept : ∀ rest : Fields, ((key, value) :: rest).filter (·.1 ≠ k) =
      (key, value) :: rest.filter (·.1 ≠ k) := fun rest =>
    List.filter_cons_of_pos (by simpa using hne)
  induction fields with
  | nil => exact hkept []
  | cons field fields ih =>
      obtain ⟨name, held⟩ := field
      obtain ⟨hfirst, hrest⟩ := List.pairwise_cons.1 h
      by_cases hname : name = k
      · -- The first member goes, and where the key belongs is seen from the others alone.
        subst hname
        rw [List.filter_cons_of_neg (by simp), ← ih hrest]
        by_cases hlt : key < name
        · rw [put_cons_of_lt hlt, hkept, List.filter_cons_of_neg (by simp)]
          cases fields with
          | nil => exact (hkept []).symm
          | cons next fields =>
              have hnext : key < next.1 := hlt.trans (hfirst next List.mem_cons_self)
              rw [put_cons_of_lt hnext, hkept]
        · rw [put, if_neg hlt, if_neg hne, List.filter_cons_of_neg (by simp)]
      · rw [List.filter_cons_of_pos (by simpa using hname)]
        unfold put
        split
        · rw [hkept, List.filter_cons_of_pos (by simpa using hname)]
        · split
          · exact hkept fields
          · rw [List.filter_cons_of_pos (by simpa using hname), ih hrest]

theorem filter_gather (key : String) (h : Ascending start) (members : Fields) :
    (gather start members).filter (·.1 ≠ key) =
      gather (start.filter (·.1 ≠ key)) (members.filter (·.1 ≠ key)) := by
  induction members generalizing start with
  | nil => rfl
  | cons member members ih =>
      rw [gather_cons, ih (ascending_put h)]
      by_cases hmember : member.1 = key
      · rw [List.filter_cons_of_neg (by simpa using hmember), ← hmember, filter_put_self]
      · rw [List.filter_cons_of_pos (by simpa using hmember), filter_put_of_ne hmember h,
          gather_cons]

theorem perm_cons_filter (h : Ascending fields) (hmem : (key, value) ∈ fields) :
    fields.Perm ((key, value) :: fields.filter (·.1 ≠ key)) := by
  obtain ⟨before, after, rfl⟩ := List.append_of_mem hmem
  obtain ⟨-, hafter, hbefore⟩ := List.pairwise_append.1 h
  have hkept : (before ++ (key, value) :: after).filter (·.1 ≠ key) = before ++ after := by
    rw [List.filter_append, List.filter_cons_of_neg (by simp)]
    congr 1
    · refine List.filter_eq_self.2 fun field hfield => ?_
      have hlt : field.1 < key := hbefore field hfield _ List.mem_cons_self
      exact decide_eq_true hlt.ne
    · refine List.filter_eq_self.2 fun field hfield => ?_
      have hlt : key < field.1 := (List.pairwise_cons.1 hafter).1 field hfield
      exact decide_eq_true hlt.ne'
  rw [hkept]
  exact List.perm_middle

theorem filter_of_perm_cons {others : Fields} (h : Ascending fields) (hothers : Ascending others)
    (hperm : fields.Perm ((key, value) :: others)) : fields.filter (·.1 ≠ key) = others := by
  have hmem : (key, value) ∈ fields := hperm.mem_iff.2 List.mem_cons_self
  have hsame : (fields.filter (·.1 ≠ key)).Perm others :=
    List.perm_cons _ |>.1 ((perm_cons_filter h hmem).symm.trans hperm)
  exact hsame.eq_of_pairwise (fun a b _ _ hab hba => absurd hab hba.asymm) (h.filter _) hothers

end BusLocator.Json
