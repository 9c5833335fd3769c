import RecordSelection.Proofs.Text.Parts
import RecordSelection.Url.Basic

/-!
# The target of a request

A request line has the path and the query of a URL. Taking it apart again gives the segments and
the query of the URL, as long as no segment holds a slash or a question mark.
-/

set_option autoImplicit false

namespace RecordSelection

namespace Url

def pathSegments (target : String) : List (List Char) :=
  (Text.splitAt (· == '/') (target.toList.takeWhile (· ≠ '?'))).tail

def queryText (target : String) : Option (List Char) :=
  match target.toList.dropWhile (· ≠ '?') with
  | _ :: query => some query
  | [] => none

def Sound (u : Url) : Prop := ∀ s ∈ u.segments, '/' ∉ s ∧ '?' ∉ s

theorem splitAt_renderSegments (segments : List (List Char)) (h : ∀ s ∈ segments, '/' ∉ s) :
    Text.splitAt (· == '/') (renderSegments segments) = [] :: segments := by
  induction segments with
  | nil => rfl
  | cons s rest ih =>
    have hs : ∀ c ∈ s, (c == '/') = false := by
      intro c hc
      have hne : c ≠ '/' := fun hslash => h s (by simp) (hslash ▸ hc)
      simpa using hne
    have hrest := ih fun t ht => h t (List.mem_cons_of_mem _ ht)
    change Text.splitAt _ ('/' :: (s ++ renderSegments rest)) = _
    rw [Text.splitAt_cons_of_sep _ _ _ rfl]
    cases rest with
    | nil =>
      rw [renderSegments, List.flatMap_nil, List.append_nil, Text.splitAt_of_forall _ s hs]
    | cons t rest =>
      change _ :: Text.splitAt _ (s ++ '/' :: (t ++ renderSegments rest)) = _
      rw [Text.splitAt_append_sep _ _ _ _ rfl, Text.splitAt_of_forall _ s hs]
      change Text.splitAt _ ('/' :: (t ++ renderSegments rest)) = _ at hrest
      rw [Text.splitAt_cons_of_sep _ _ _ rfl] at hrest
      rw [(List.cons.inj hrest).2]
      rfl

theorem toList_target (u : Url) :
    u.target.toList = renderSegments u.segments ++ renderQuery u.query := by
  rw [target, String.toList_ofList]

theorem notMem_renderSegments (u : Url) (h : u.Sound) :
    ∀ c ∈ renderSegments u.segments, decide (c ≠ '?') = true := by
  intro c hc
  obtain ⟨s, hs, hmem⟩ := List.mem_flatMap.mp hc
  rw [decide_eq_true_iff]
  rintro rfl
  rcases List.mem_cons.mp hmem with heq | hmem
  · exact absurd heq (by decide)
  · exact (h s hs).2 hmem

theorem pathSegments_target (u : Url) (h : u.Sound) : pathSegments u.target = u.segments := by
  have hpath : u.target.toList.takeWhile (· ≠ '?') = renderSegments u.segments := by
    rw [toList_target, List.takeWhile_append_of_pos (notMem_renderSegments u h)]
    cases u.query <;> simp [renderQuery]
  rw [pathSegments, hpath, splitAt_renderSegments _ fun s hs => (h s hs).1]
  rfl

theorem queryText_target (u : Url) (h : u.Sound) : queryText u.target = u.query := by
  rw [queryText, toList_target, List.dropWhile_append_of_pos (notMem_renderSegments u h)]
  cases u.query <;> simp [renderQuery]

end Url

end RecordSelection
