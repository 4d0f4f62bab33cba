import FixTrial.Proofs.Except
import FixTrial.Proofs.Text.Digits
import FixTrial.Session.Request

/-!
Options at the end of a command line are read as they would be anywhere: what was asked for before
still is, but for what they ask for instead.
-/
namespace FixTrial

namespace Request
variable {name value : String} {f : Flag} {args xs ys : List String} {as bs : List Argument}
  {p q : Partial} {r : Request} {n : Int}

/-! ### One option -/

/-- Options start with a dash, and have no equals sign. -/
theorem option_of_mem_flags (h : (name, f) ∈ flags) :
    (∃ c rest, name.toList = '-' :: c :: rest) ∧ '=' ∉ name.toList ∧ flags.lookup name = some f := by
  have hall : ∀ entry ∈ flags, entry.1.toList.head? = some '-' ∧ 2 ≤ entry.1.toList.length ∧
      '=' ∉ entry.1.toList ∧ flags.lookup entry.1 = some entry.2 := by
    decide +kernel
  obtain ⟨hdash, hlong, hplain, hlookup⟩ := hall _ h
  refine ⟨?_, hplain, hlookup⟩
  match hcs : name.toList with
  | [] => simp [hcs] at hdash
  | [_] => simp [hcs] at hlong
  | d :: c :: rest =>
    obtain rfl : d = '-' := by simpa [hcs] using hdash
    exact ⟨c, rest, rfl⟩

theorem lookup_of_equals (h : '=' ∈ value.toList) : flags.lookup value = none := by
  rw [List.lookup_eq_none_iff]
  intro entry hentry
  have hflag : (entry.1, entry.2) ∈ flags := hentry
  have hplain := (option_of_mem_flags hflag).2.1
  rw [bne_iff_ne]
  rintro rfl
  exact hplain h

theorem toList_option : (name ++ "=" ++ value).toList = name.toList ++ '=' :: value.toList := by
  rw [String.toList_append, String.toList_append, List.append_assoc]
  rfl

theorem cutAtEquals_option (h : '=' ∉ name.toList) :
    cutAtEquals (name ++ "=" ++ value) = (name, some value) := by
  have hkeep : ∀ c ∈ name.toList, decide (c ≠ '=') = true := by
    intro c hc
    rw [decide_eq_true_eq]
    rintro rfl
    exact h hc
  unfold cutAtEquals
  simp only [toList_option]
  rw [List.takeWhile_append_of_pos hkeep, List.dropWhile_append_of_pos hkeep]
  simp

/-- A value may follow its option behind an equals sign. -/
theorem argument_option (h : (name, f) ∈ flags) :
    argument (name ++ "=" ++ value) = .ok (.flag f (some value)) := by
  obtain ⟨⟨c, rest, hname⟩, hplain, hlookup⟩ := option_of_mem_flags h
  have hunknown : flags.lookup (name ++ "=" ++ value) = none :=
    lookup_of_equals (by simp)
  unfold argument
  simp only [cutAtEquals_option hplain, hunknown, hlookup, toList_option, hname, List.cons_append]

/-! ### Command lines -/

theorem arguments_option (h : (name, f) ∈ flags) (hx : arguments xs = .ok as) :
    arguments ((name ++ "=" ++ value) :: xs) = .ok (.flag f (some value) :: as) := by
  have hdivider : name ++ "=" ++ value ≠ "--" := by
    intro heq
    have hmem : '=' ∈ (name ++ "=" ++ value).toList := by simp
    rw [heq] at hmem
    exact absurd hmem (by decide)
  rw [arguments, if_neg hdivider, argument_option h, hx]
  rfl

theorem arguments_append (hx : arguments xs = .ok as) (hdivider : .divider ∉ as)
    (hy : arguments ys = .ok bs) : arguments (xs ++ ys) = .ok (as ++ bs) := by
  induction xs generalizing as with
  | nil =>
    cases hx
    exact hy
  | cons s rest ih =>
    rw [List.cons_append]
    unfold arguments at hx ⊢
    split at hx
    next hs =>
      cases hx
      exact absurd List.mem_cons_self hdivider
    next hs =>
      rw [if_neg hs]
      obtain ⟨a, ha, hx⟩ := bind_eq_ok_iff.mp hx
      obtain ⟨others, hothers, hx⟩ := bind_eq_ok_iff.mp hx
      cases hx
      have hrest := ih hothers fun hmem => hdivider (List.mem_cons_of_mem a hmem)
      exact bind_eq_ok_iff.mpr ⟨a, ha, bind_eq_ok_iff.mpr ⟨_, hrest, rfl⟩⟩

theorem stray_set (h : p.set f value = .ok q) : q.stray = p.stray := by
  unfold Partial.set at h
  split at h
  case h_6 =>
    split at h
    · split at h
      · cases h
      · cases h
        rfl
    · cases h
  all_goals
    cases h
    try rfl

theorem gather_word (hf : f ≠ .help) : gather p (.flag f none :: .word value :: as) =
    (p.set f value >>= fun p => gather p as) := by
  rw [gather]
  exact hf

theorem gather_other {a : Argument} (ha : ∀ f value, a ≠ .flag f value) :
    gather p (a :: as) = gather { p with stray := true } as := by
  cases a with
  | flag f value => exact absurd rfl (ha f value)
  | _ => rfl

/-- What is read on after some arguments is as if nothing else had been. -/
theorem gather_append (h : gather p as = .ok q) : gather p (as ++ bs) = gather q bs := by
  induction p, as using gather.induct with
  | case1 p =>
    cases h
    rfl
  | case2 p f value rest ih =>
    obtain ⟨p', hset, hrest⟩ := bind_eq_ok_iff.mp h
    change (p.set f value >>= fun p' => gather p' (rest ++ bs)) = _
    rw [hset]
    exact ih p' hrest
  | case3 p rest => cases h
  | case4 p f value rest hf ih =>
    rw [gather_word hf] at h
    obtain ⟨p', hset, hrest⟩ := bind_eq_ok_iff.mp h
    rw [List.cons_append, List.cons_append, gather_word hf, hset]
    exact ih p' hrest
  | case5 p f rest hf hword =>
    rw [gather] at h
    · cases h
    · exact hf
    · exact hword
  | case6 p a rest hvalue _ _ hflag ih =>
    have ha : ∀ f value, a ≠ .flag f value := fun f value =>
      match value with
      | none => hflag f
      | some value => hvalue f value
    rw [gather_other ha] at h
    rw [List.cons_append, gather_other ha]
    exact ih h

/-- A command line on which all that was said has a meaning has no divider. -/
theorem no_divider_of_gather (h : gather p as = .ok q) (hq : q.stray = false) :
    p.stray = false ∧ .divider ∉ as := by
  induction p, as using gather.induct with
  | case1 p =>
    cases h
    exact ⟨hq, List.not_mem_nil⟩
  | case2 p f value rest ih =>
    obtain ⟨p', hset, hrest⟩ := bind_eq_ok_iff.mp h
    obtain ⟨hp, hdivider⟩ := ih p' hrest
    exact ⟨stray_set hset ▸ hp, by simpa using hdivider⟩
  | case3 p rest => cases h
  | case4 p f value rest hf ih =>
    rw [gather_word hf] at h
    obtain ⟨p', hset, hrest⟩ := bind_eq_ok_iff.mp h
    obtain ⟨hp, hdivider⟩ := ih p' hrest
    exact ⟨stray_set hset ▸ hp, by simpa using hdivider⟩
  | case5 p f rest hf hword =>
    rw [gather] at h
    · cases h
    · exact hf
    · exact hword
  | case6 p a rest hvalue _ _ hflag ih =>
    have ha : ∀ f value, a ≠ .flag f value := fun f value =>
      match value with
      | none => hflag f
      | some value => hvalue f value
    rw [gather_other ha] at h
    exact absurd (ih h).1 (by simp)

/-- A request as what has been gathered for it. -/
def told (r : Request) : Partial := ⟨some r.out, r.config, r.depth, r.mode, r.runName, false⟩

def untold : Partial := ⟨none, none, none, none, none, false⟩

theorem ofArguments_eq_ok : ofArguments args = .ok r ↔
    ∃ as, arguments args = .ok as ∧ gather untold as = .ok r.told := by
  unfold ofArguments
  rw [bind_eq_ok_iff]
  refine exists_congr fun as => and_congr_right fun _ => ?_
  rw [bind_eq_ok_iff]
  constructor
  · rintro ⟨p, hp, h⟩
    split at h
    next out hout =>
      split at h
      · cases h
      next hstray =>
        cases h
        obtain ⟨_, config, depth, mode, runName, stray⟩ := p
        obtain rfl : _ = some out := hout
        obtain rfl : stray = false := Bool.not_eq_true _ ▸ hstray
        exact hp
    next => cases h
  · intro h
    exact ⟨r.told, h, rfl⟩

/-- A depth and a mode at the end of a command line are asked for in place of any before, if the depth
is not too long. -/
theorem ofArguments_options (h : ofArguments args = .ok r) (n : Int) (mode : String) :
    ofArguments (args ++ ["--depth=" ++ toString n, "--mode=" ++ mode]) =
      if Text.digitLimit < Text.digitCount (toString n).toList then .error .malformed
      else .ok { r with depth := some n, mode := some mode } := by
  obtain ⟨as, hargs, hgather⟩ := ofArguments_eq_ok.mp h
  have hoptions : arguments ["--depth" ++ "=" ++ toString n, "--mode" ++ "=" ++ mode] =
      .ok [.flag .depth (some (toString n)), .flag .mode (some mode)] :=
    arguments_option (by decide) (arguments_option (by decide) rfl)
  have hall : arguments (args ++ ["--depth=" ++ toString n, "--mode=" ++ mode]) =
      .ok (as ++ [.flag .depth (some (toString n)), .flag .mode (some mode)]) :=
    arguments_append hargs (no_divider_of_gather hgather rfl).2 hoptions
  have hset : r.told.set .depth (toString n) =
      if Text.digitLimit < Text.digitCount (toString n).toList then .error .malformed
      else .ok { r.told with depth := some n } := by
    simp only [Partial.set, Text.integer?_toString]
  unfold ofArguments
  rw [hall]
  change (gather untold _ >>= _) = _
  rw [gather_append hgather, gather, hset]
  split_ifs
  all_goals rfl

end Request
end FixTrial
