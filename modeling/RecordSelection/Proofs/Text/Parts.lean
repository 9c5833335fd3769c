import RecordSelection.Text.Blank

/-!
# Texts put together from parts

The parts of a text between the occurrences of a character, and texts joined by that character.
Splitting undoes joining as long as no part holds the character and there is a part at all. A run
of one kind of character is found again before a text that does not go on with that kind.
-/

set_option autoImplicit false

namespace RecordSelection.Text

def parts (sep : Char) (s : String) : List String := (s.toList.splitOn sep).map String.ofList

theorem parts_intercalate (sep : Char) (t : String) (ht : t.toList = [sep]) (ls : List String)
    (hsep : ∀ s ∈ ls, sep ∉ s.toList) (hne : ls ≠ []) : parts sep (t.intercalate ls) = ls := by
  unfold parts
  rw [String.toList_intercalate, ht, List.splitOn_intercalate]
  · simp [Function.comp_def]
  · intro l hl
    obtain ⟨s, hs, rfl⟩ := List.mem_map.mp hl
    exact hsep s hs
  · simpa using hne

theorem intercalate_flatten (t : String) (groups : List (List String))
    (hne : ∀ g ∈ groups, g ≠ []) :
    t.intercalate (groups.map t.intercalate) = t.intercalate groups.flatten := by
  induction groups with
  | nil => rfl
  | cons g rest ih =>
    have hg : g ≠ [] := hne g (by simp)
    have hrest : ∀ g ∈ rest, g ≠ [] := fun g h => hne g (by simp [h])
    cases rest with
    | nil => simp
    | cons g' rest' =>
      have hflat : (g' :: rest').flatten ≠ [] := by simp [hrest g' (by simp)]
      rw [List.map_cons, String.intercalate_cons_of_ne_nil (by simp), ih hrest]
      exact (String.intercalate_append_of_ne_nil hg hflat).symm

theorem toList_intercalate_cons (t first : String) (rest : List String) :
    (t.intercalate (first :: rest)).toList =
      first.toList ++ rest.flatMap fun s => t.toList ++ s.toList := by
  induction rest generalizing first with
  | nil => simp
  | cons second rest ih =>
    rw [String.intercalate_cons_cons, String.toList_append, String.toList_append, ih second,
      List.flatMap_cons]
    simp only [List.append_assoc]

theorem mem_intercalate (t : String) (ls : List String) (c : Char)
    (h : c ∈ (t.intercalate ls).toList) : c ∈ t.toList ∨ ∃ s ∈ ls, c ∈ s.toList := by
  induction ls with
  | nil => simp at h
  | cons first rest ih =>
    cases rest with
    | nil => exact .inr ⟨first, by simp, by simpa using h⟩
    | cons second rest =>
      rw [String.intercalate_cons_cons, String.toList_append, String.toList_append] at h
      rcases List.mem_append.mp h with h | h
      · rcases List.mem_append.mp h with h | h
        · exact .inr ⟨first, by simp, h⟩
        · exact .inl h
      · rcases ih h with h | ⟨s, hs, h⟩
        · exact .inl h
        · exact .inr ⟨s, List.mem_cons_of_mem _ hs, h⟩

theorem intercalate_ne_empty (t : String) (ls : List String) (s : String) (hs : s ∈ ls)
    (hne : s ≠ "") : t.intercalate ls ≠ "" := by
  induction ls with
  | nil => simp at hs
  | cons first rest ih =>
    cases rest with
    | nil => simpa [List.mem_singleton.mp hs] using hne
    | cons second rest =>
      intro h
      rw [String.intercalate_cons_cons] at h
      simp only [String.append_eq_empty_iff] at h
      rcases List.mem_cons.mp hs with rfl | hs
      · exact hne h.1.1
      · exact ih hs h.2

section

variable (sep : Char → Bool)

theorem splitAt_ne_nil (s : List Char) : splitAt sep s ≠ [] := by
  cases s with
  | nil => simp [splitAt]
  | cons c rest =>
    unfold splitAt
    split
    · simp
    · split <;> simp

theorem splitAt_cons_of_sep (c : Char) (s : List Char) (h : sep c = true) :
    splitAt sep (c :: s) = [] :: splitAt sep s := by
  rw [splitAt, if_pos h]

theorem splitAt_append_sep (s : List Char) (c : Char) (rest : List Char) (h : sep c = true) :
    splitAt sep (s ++ c :: rest) = splitAt sep s ++ splitAt sep rest := by
  induction s with
  | nil => rw [List.nil_append, splitAt_cons_of_sep sep c rest h]; rfl
  | cons d s ih =>
    by_cases hd : sep d = true
    · rw [List.cons_append, splitAt_cons_of_sep sep d _ hd, splitAt_cons_of_sep sep d s hd, ih]
      rfl
    · obtain ⟨part, parts, hparts⟩ := List.exists_cons_of_ne_nil (splitAt_ne_nil sep s)
      rw [List.cons_append, splitAt, if_neg hd, ih, splitAt, if_neg hd, hparts]
      rfl

theorem splitAt_of_forall (s : List Char) (h : ∀ c ∈ s, sep c = false) : splitAt sep s = [s] := by
  induction s with
  | nil => rfl
  | cons c s ih =>
    have hc : ¬sep c = true := by simp [h c (by simp)]
    rw [splitAt, if_neg hc, ih fun d hd => h d (List.mem_cons_of_mem _ hd)]

theorem mem_of_mem_splitAt (s part : List Char) (c : Char) (hpart : part ∈ splitAt sep s)
    (hc : c ∈ part) : c ∈ s ∧ sep c = false := by
  induction s generalizing part with
  | nil =>
    obtain rfl := List.mem_singleton.mp hpart
    exact absurd hc List.not_mem_nil
  | cons d s ih =>
    by_cases hd : sep d = true
    · rw [splitAt_cons_of_sep sep d s hd] at hpart
      rcases List.mem_cons.mp hpart with rfl | hpart
      · exact absurd hc List.not_mem_nil
      · exact (ih part hpart hc).imp_left (List.mem_cons_of_mem _)
    · obtain ⟨first, parts, hparts⟩ := List.exists_cons_of_ne_nil (splitAt_ne_nil sep s)
      rw [splitAt, if_neg hd, hparts] at hpart
      rcases List.mem_cons.mp hpart with rfl | hpart
      · rcases List.mem_cons.mp hc with rfl | hc
        · exact ⟨by simp, by simpa using hd⟩
        · exact (ih first (by simp [hparts]) hc).imp_left (List.mem_cons_of_mem _)
      · exact (ih part (by simp [hparts, hpart]) hc).imp_left (List.mem_cons_of_mem _)

end

/-! ## Runs of one kind of character -/

section

variable (p : Char → Bool)

def Stops (s : List Char) : Prop := ∀ c, s.head? = some c → p c = false

theorem stops_nil : Stops p [] := nofun

theorem stops_cons (c : Char) (s : List Char) : Stops p (c :: s) ↔ p c = false := by
  simp [Stops]

theorem stops_dropWhile (s : List Char) : Stops p (s.dropWhile p) := by
  intro c hc
  have := List.head?_dropWhile_not p s
  simp_all

variable (run rest : List Char) (hrun : ∀ c ∈ run, p c = true) (hrest : Stops p rest)

include hrun hrest

theorem takeWhile_run : (run ++ rest).takeWhile p = run := by
  rw [List.takeWhile_append_of_pos hrun]
  cases rest with
  | nil => simp
  | cons c rest => simp [(stops_cons p c rest).mp hrest]

theorem dropWhile_run : (run ++ rest).dropWhile p = rest := by
  rw [List.dropWhile_append_of_pos hrun]
  cases rest with
  | nil => rfl
  | cons c rest => simp [(stops_cons p c rest).mp hrest]

theorem run_inj (run' rest' : List Char) (hrun' : ∀ c ∈ run', p c = true)
    (hrest' : Stops p rest') (h : run ++ rest = run' ++ rest') : run = run' ∧ rest = rest' := by
  constructor
  · rw [← takeWhile_run p run rest hrun hrest, h, takeWhile_run p run' rest' hrun' hrest']
  · rw [← dropWhile_run p run rest hrun hrest, h, dropWhile_run p run' rest' hrun' hrest']

end

end RecordSelection.Text
