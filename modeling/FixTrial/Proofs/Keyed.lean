import FixTrial.Fix
import Mathlib.Data.List.Nodup

/-! Lists without repeated keys, seen through the keys that they hold. -/
namespace FixTrial.Keyed
variable {α κ : Type} [DecidableEq κ] {key : α → κ} {k : κ} {x : α} {xs ys zs : List α}

theorem has_iff : has key k xs = true ↔ k ∈ xs.map key := by
  simp [has]

theorem has_eq_false_iff : has key k xs = false ↔ k ∉ xs.map key := by
  rw [← has_iff, Bool.not_eq_true]

theorem mem_keys_insert : k ∈ (insert key xs x).map key ↔ k ∈ xs.map key ∨ k = key x := by
  unfold insert
  split
  next h =>
    rw [has_iff] at h
    constructor
    · exact Or.inl
    · rintro (hk | rfl)
      · exact hk
      · exact h
  next => simp

theorem nodup_keys_insert (h : (xs.map key).Nodup) : ((insert key xs x).map key).Nodup := by
  unfold insert
  split
  next => exact h
  next hx =>
    rw [has_iff] at hx
    rw [List.map_append, List.map_singleton]
    exact List.nodup_append_comm.mp (List.nodup_cons.mpr ⟨hx, h⟩)

theorem mem_keys_union (xs ys : List α) :
    k ∈ (union key xs ys).map key ↔ k ∈ xs.map key ∨ k ∈ ys.map key := by
  induction ys generalizing xs with
  | nil => simp [union]
  | cons y ys ih =>
    change k ∈ (union key (insert key xs y) ys).map key ↔ _
    rw [ih, mem_keys_insert, List.map_cons, List.mem_cons, or_assoc]

/-- A union takes its elements from its parts. -/
theorem mem_of_mem_union (h : x ∈ union key xs ys) : x ∈ xs ∨ x ∈ ys := by
  unfold union at h
  induction ys generalizing xs with
  | nil => exact .inl h
  | cons y rest ih =>
    rcases ih h with hinsert | hrest
    · unfold insert at hinsert
      split at hinsert
      · exact .inl hinsert
      · rcases List.mem_append.mp hinsert with hold | hnew
        · exact .inl hold
        · exact .inr (List.mem_singleton.mp hnew ▸ List.mem_cons_self)
    · exact .inr (List.mem_cons_of_mem y hrest)

theorem mem_keys_distinct : k ∈ (distinct key xs).map key ↔ k ∈ xs.map key := by
  simp [distinct, mem_keys_union]

theorem mem_keys_foldl_union {β : Type} (f : β → List α) (bs : List β) (xs : List α) :
    k ∈ (bs.foldl (fun xs b => union key xs (f b)) xs).map key ↔
      k ∈ xs.map key ∨ ∃ b ∈ bs, k ∈ (f b).map key := by
  induction bs generalizing xs with
  | nil => simp
  | cons b bs ih => rw [List.foldl_cons, ih, mem_keys_union, or_assoc, List.exists_mem_cons_iff]

/-- What is its own key is in a union exactly if it is in a part of it. -/
theorem mem_union {α : Type} [DecidableEq α] {a : α} (xs ys : List α) :
    a ∈ union id xs ys ↔ a ∈ xs ∨ a ∈ ys := by
  have hkeys : a ∈ (union id xs ys).map id ↔ a ∈ xs.map id ∨ a ∈ ys.map id := mem_keys_union xs ys
  simpa only [List.map_id] using hkeys

theorem mem_foldl_union {α β : Type} [DecidableEq α] {a : α} (f : β → List α) (bs : List β)
    (xs : List α) :
    a ∈ bs.foldl (fun xs b => union id xs (f b)) xs ↔ a ∈ xs ∨ ∃ b ∈ bs, a ∈ f b := by
  have hkeys : a ∈ (bs.foldl (fun xs b => union id xs (f b)) xs).map id ↔
      a ∈ xs.map id ∨ ∃ b ∈ bs, a ∈ (f b).map id := mem_keys_foldl_union f bs xs
  simpa only [List.map_id] using hkeys

theorem nodup_keys_union (h : (xs.map key).Nodup) : ((union key xs ys).map key).Nodup := by
  induction ys generalizing xs with
  | nil => exact h
  | cons y ys ih => exact ih (nodup_keys_insert h)

theorem nodup_keys_foldl_union {β : Type} (f : β → List α) (bs : List β)
    (h : (xs.map key).Nodup) :
    ((bs.foldl (fun xs b => union key xs (f b)) xs).map key).Nodup := by
  induction bs generalizing xs with
  | nil => exact h
  | cons b bs ih => exact ih (nodup_keys_union h)

omit [DecidableEq κ] in
theorem mem_keys_filter (key : α → κ) {p : α → Bool} (q : κ → Bool) (h : ∀ x, p x = q (key x)) :
    k ∈ (xs.filter p).map key ↔ k ∈ xs.map key ∧ q k = true := by
  simp only [List.mem_map, List.mem_filter, h]
  constructor
  · rintro ⟨x, ⟨hx, hq⟩, rfl⟩
    exact ⟨⟨x, hx, rfl⟩, hq⟩
  · rintro ⟨⟨x, hx, rfl⟩, hq⟩
    exact ⟨x, ⟨hx, hq⟩, rfl⟩

/-- Picking by the key and keeping the first element with each key can be done in either order. -/
theorem union_filter (key : α → κ) {p : α → Bool} (q : κ → Bool) (h : ∀ x, p x = q (key x))
    (xs ys : List α) : union key (xs.filter p) (ys.filter p) = (union key xs ys).filter p := by
  induction ys generalizing xs with
  | nil => rfl
  | cons y ys ih =>
    change _ = (union key (insert key xs y) ys).filter p
    rw [← ih, List.filter_cons]
    cases hy : p y with
    | true =>
      have hmem : has key (key y) (xs.filter p) = has key (key y) xs := by
        rw [Bool.eq_iff_iff, has_iff, has_iff, mem_keys_filter key q h, ← h, hy]
        exact and_iff_left rfl
      have hinsert : insert key (xs.filter p) y = (insert key xs y).filter p := by
        unfold insert
        rw [hmem]
        split <;> simp [hy]
      rw [← hinsert]
      rfl
    | false =>
      have hinsert : (insert key xs y).filter p = xs.filter p := by
        unfold insert
        split <;> simp [hy]
      rw [hinsert]
      rfl

theorem distinct_filter (key : α → κ) {p : α → Bool} (q : κ → Bool) (h : ∀ x, p x = q (key x))
    (xs : List α) : distinct key (xs.filter p) = (distinct key xs).filter p :=
  union_filter key q h [] xs

theorem mem_keys_without :
    k ∈ (without key xs ys).map key ↔ k ∈ xs.map key ∧ k ∉ ys.map key := by
  rw [without, mem_keys_filter key (fun k => !has key k ys) fun _ => rfl, Bool.not_eq_true',
    has_eq_false_iff]

theorem prefix_union (xs ys : List α) : xs <+: union key xs ys := by
  induction ys generalizing xs with
  | nil => exact List.prefix_refl xs
  | cons y rest ih =>
    have hinsert : xs <+: insert key xs y := by
      unfold insert
      split
      · exact List.prefix_refl xs
      · exact List.prefix_append xs [y]
    exact hinsert.trans (ih (insert key xs y))

theorem union_insert : union key xs (insert key ys x) = insert key (union key xs ys) x := by
  unfold insert
  split
  next h =>
    have hx : has key (key x) (union key xs ys) = true :=
      has_iff.mpr ((mem_keys_union xs ys).mpr (.inr (has_iff.mp h)))
    rw [if_pos hx]
  next =>
    unfold union
    rw [List.foldl_append]
    rfl

theorem union_assoc : union key (union key xs ys) zs = union key xs (union key ys zs) := by
  induction zs generalizing ys with
  | nil => rfl
  | cons z rest ih =>
    change union key (insert key (union key xs ys) z) rest =
      union key xs (union key (insert key ys z) rest)
    rw [← union_insert, ih]

/-- Repeats among what is added make no difference. -/
theorem union_distinct : union key xs (distinct key ys) = union key xs ys := by
  have h : union key (union key xs []) ys = union key xs (union key [] ys) := union_assoc
  exact h.symm

theorem distinct_append : distinct key (xs ++ ys) = union key (distinct key xs) ys :=
  List.foldl_append

theorem distinct_append_of_mem (h : key x ∈ xs.map key) :
    distinct key (xs ++ [x]) = distinct key xs := by
  rw [distinct_append]
  exact if_pos (has_iff.mpr (mem_keys_distinct.mpr h))

theorem distinct_append_of_new (h : key x ∉ xs.map key) :
    distinct key (xs ++ [x]) = distinct key xs ++ [x] := by
  rw [distinct_append]
  exact if_neg fun hx => h (mem_keys_distinct.mp (has_iff.mp hx))

theorem distinct_append_distinct :
    distinct key (distinct key xs ++ distinct key ys) = distinct key (xs ++ ys) := by
  have hidem : distinct key (distinct key xs) = distinct key xs := union_distinct
  rw [distinct_append, distinct_append, union_distinct, hidem]

theorem map_insert : (insert key xs x).map key = insert id (xs.map key) (key x) := by
  have hhas : has id (key x) (xs.map key) = has key (key x) xs := by
    rw [Bool.eq_iff_iff, has_iff, has_iff, List.map_id]
  unfold insert
  rw [id, hhas]
  split <;> simp

/-- Two lists that hold the same keys. -/
def Same {α κ : Type} (key : α → κ) (xs ys : List α) : Prop :=
  ∀ k, k ∈ xs.map key ↔ k ∈ ys.map key

namespace Same
variable {α κ : Type} {key : α → κ} {xs ys zs : List α}

theorem refl (xs : List α) : Same key xs xs := fun _ => Iff.rfl

theorem symm (h : Same key xs ys) : Same key ys xs := fun k => (h k).symm

theorem trans (h : Same key xs ys) (h' : Same key ys zs) : Same key xs zs :=
  fun k => (h k).trans (h' k)

theorem eq_nil (h : Same key xs []) : xs = [] := by
  cases xs with
  | nil => rfl
  | cons x xs => simpa using (h (key x)).mp (by simp)

end Same
end FixTrial.Keyed

namespace FixTrial.Fix

/-- A fix of one field, of which no more is known. -/
def ofField (typeName member : String) : Fix :=
  { location := ⟨⟨.field, typeName, member, 0⟩, ""⟩, mark := "Nullable", reasons := []
    origin := .target, patch := none }

variable {f : Fix} {fixes : List Fix}

@[simp] theorem key_absorb {g : Fix} : (g.absorb f).key = g.key := rfl

theorem keys_collect :
    (collect fixes f).map key = (Keyed.insert key fixes f).map key := by
  induction fixes with
  | nil => rfl
  | cons g rest ih =>
    rw [collect]
    by_cases h : g.key = f.key
    · rw [if_pos h, Keyed.insert, if_pos (Keyed.has_iff.mpr (by simp [h]))]
      simp
    · have hh : Keyed.has key f.key (g :: rest) = Keyed.has key f.key rest := by
        simp [Keyed.has, h]
      rw [if_neg h, List.map_cons, ih, Keyed.insert, Keyed.insert, hh]
      split <;> rfl

theorem mem_keys_foldl_collect {k : FixKey} {gs : List Fix} :
    k ∈ (fixes.foldl collect gs).map key ↔ k ∈ gs.map key ∨ k ∈ fixes.map key := by
  induction fixes generalizing gs with
  | nil => simp
  | cons f rest ih =>
    rw [List.foldl_cons, ih, keys_collect, Keyed.mem_keys_insert, List.map_cons, List.mem_cons,
      or_assoc]

theorem nodup_keys_foldl_collect {gs : List Fix} (h : (gs.map key).Nodup) :
    ((fixes.foldl collect gs).map key).Nodup := by
  induction fixes generalizing gs with
  | nil => exact h
  | cons f rest ih =>
    apply ih
    rw [keys_collect]
    exact Keyed.nodup_keys_insert h

theorem dedupe_same : Keyed.Same key (dedupe fixes) fixes := by
  intro k
  simp [dedupe, mem_keys_foldl_collect]

theorem nodup_keys_dedupe : ((dedupe fixes).map key).Nodup :=
  nodup_keys_foldl_collect List.nodup_nil

theorem forall_mem_collect {P : Fix → Prop} (habsorb : ∀ g f, P g → P f → P (g.absorb f))
    (hfs : ∀ g ∈ fixes, P g) (hf : P f) : ∀ g ∈ collect fixes f, P g := by
  induction fixes with
  | nil => simpa [collect] using hf
  | cons g rest ih =>
    rw [List.forall_mem_cons] at hfs
    unfold collect
    split
    · exact List.forall_mem_cons.mpr ⟨habsorb g f hfs.1 hf, hfs.2⟩
    · exact List.forall_mem_cons.mpr ⟨hfs.1, ih hfs.2⟩

/-- What is true of all fixes, and of a fix that absorbs another, is true of each once. -/
theorem forall_mem_dedupe {P : Fix → Prop} (habsorb : ∀ g f, P g → P f → P (g.absorb f))
    (hfs : ∀ f ∈ fixes, P f) : ∀ f ∈ dedupe fixes, P f := by
  have hall : ∀ (fs gs : List Fix), (∀ f ∈ fs, P f) → (∀ g ∈ gs, P g) →
      ∀ f ∈ fs.foldl collect gs, P f := by
    intro fs
    induction fs with
    | nil => exact fun _ _ hgs => hgs
    | cons f rest ih =>
      intro gs hfs hgs
      rw [List.forall_mem_cons] at hfs
      exact ih _ hfs.2 (forall_mem_collect habsorb hgs hfs.1)
  exact hall fixes [] hfs (by simp)

/-- The target asks for the fix with a key. -/
def Asked (k : FixKey) (fixes : List Fix) : Prop := ∃ f ∈ fixes, f.key = k ∧ f.origin = .target

theorem origin_absorb {g : Fix} :
    (g.absorb f).origin = .target ↔ g.origin = .target ∨ f.origin = .target := by
  cases hg : g.origin <;> cases hf : f.origin <;> simp [absorb, hg, hf]

theorem asked_cons {k : FixKey} :
    Asked k (f :: fixes) ↔ (f.key = k ∧ f.origin = .target) ∨ Asked k fixes :=
  List.exists_mem_cons_iff ..

theorem asked_collect {k : FixKey} :
    Asked k (collect fixes f) ↔ Asked k fixes ∨ f.key = k ∧ f.origin = .target := by
  induction fixes with
  | nil => simp [collect, Asked]
  | cons g rest ih =>
    unfold collect
    split
    next h =>
      rw [asked_cons, asked_cons, key_absorb, origin_absorb, h, and_or_left, or_right_comm]
    next => rw [asked_cons, asked_cons, ih, or_assoc]

theorem asked_dedupe {k : FixKey} : Asked k (dedupe fixes) ↔ Asked k fixes := by
  have hall : ∀ fs gs : List Fix, Asked k (fs.foldl collect gs) ↔ Asked k gs ∨ Asked k fs := by
    intro fs
    induction fs with
    | nil => simp [Asked]
    | cons f rest ih =>
      intro gs
      rw [List.foldl_cons, ih, asked_collect, asked_cons, or_assoc]
  rw [dedupe, hall]
  simp [Asked]

theorem asked_iff_of_mem (hn : (fixes.map key).Nodup) (hf : f ∈ fixes) :
    Asked f.key fixes ↔ f.origin = .target := by
  constructor
  · rintro ⟨g, hg, hkey, htarget⟩
    rwa [List.inj_on_of_nodup_map hn hf hg hkey.symm]
  · exact fun htarget => ⟨f, hf, rfl, htarget⟩

/-- In whatever order fixes are mentioned, the same ones are left, asked for by the same module. -/
theorem dedupe_of_perm {fixes' : List Fix} (h : fixes.Perm fixes') (hf : f ∈ dedupe fixes) :
    ∃ f' ∈ dedupe fixes', f.key = f'.key ∧ f.origin = f'.origin := by
  have hmem : f.key ∈ (dedupe fixes').map key := by
    rw [dedupe_same, ← (h.map key).mem_iff, ← dedupe_same]
    exact List.mem_map_of_mem hf
  obtain ⟨f', hf', hkey⟩ := List.mem_map.mp hmem
  have hasked : Asked f.key fixes ↔ Asked f.key fixes' :=
    exists_congr fun _ => and_congr_left fun _ => h.mem_iff
  have horigin : f.origin = .target ↔ f'.origin = .target := by
    rw [← asked_iff_of_mem nodup_keys_dedupe hf, ← asked_iff_of_mem nodup_keys_dedupe hf', hkey,
      asked_dedupe, asked_dedupe, hasked]
  refine ⟨f', hf', hkey.symm, ?_⟩
  cases hf : f.origin <;> cases hf' : f'.origin <;> simp [hf, hf'] at horigin <;> rfl

theorem collect_of_new (h : f.key ∉ fixes.map key) : collect fixes f = fixes ++ [f] := by
  induction fixes with
  | nil => rfl
  | cons g rest ih =>
    rw [List.map_cons, List.mem_cons, not_or] at h
    rw [collect, if_neg (Ne.symm h.1), ih h.2, List.cons_append]

theorem foldl_collect_of_new (gs : List Fix) (h : ((gs ++ fixes).map key).Nodup) :
    fixes.foldl collect gs = gs ++ fixes := by
  induction fixes generalizing gs with
  | nil => simp
  | cons f rest ih =>
    have hf : f.key ∉ gs.map key := by
      rw [List.map_append, List.map_cons, List.nodup_append] at h
      intro hmem
      exact h.2.2 _ hmem _ List.mem_cons_self rfl
    rw [List.foldl_cons, collect_of_new hf, ih _ (by simpa using h), List.append_assoc,
      List.singleton_append]

/-- Fixes that are all different stay as they are. -/
theorem dedupe_of_nodup (h : (fixes.map key).Nodup) : dedupe fixes = fixes :=
  foldl_collect_of_new [] h

end FixTrial.Fix
