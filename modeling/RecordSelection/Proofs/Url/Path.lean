import RecordSelection.Proofs.Url.Percent
import RecordSelection.Proofs.Url.Target
import RecordSelection.Proofs.Selection.Walk
import RecordSelection.Url.Read

/-!
# Paths that are read and extended

No segment of a URL that was read holds a slash or a question mark, and the path of a file begins
with no empty segment unless it has no other. A name that is pushed becomes one segment behind
those of the path, unless it is dots alone.
-/

set_option autoImplicit false

namespace RecordSelection.Url

def SoundSegment (s : List Char) : Prop := '/' ∉ s ∧ '?' ∉ s

theorem soundSegment_nil : SoundSegment [] := ⟨List.not_mem_nil, List.not_mem_nil⟩

theorem soundSegment_encode (set : EncodeSet) (s : List Char) (question : set '?' = true)
    (slash : set '/' = true ∨ '/' ∉ s) : SoundSegment (encode set s) := by
  refine ⟨?_, notMem_encode set s '?' question (by decide)⟩
  rcases slash with slash | slash
  · exact notMem_encode set s '/' slash (by decide)
  · intro h
    rcases mem_encode set s '/' h with h | ⟨h, -⟩
    · exact absurd h (by decide)
    · exact slash h

theorem eq_pair_of_isDrive (s : List Char) (h : isDrive s = true) :
    ∃ c d, s = [c, d] ∧ c.isAlpha = true ∧ (d = ':' ∨ d = '|') := by
  unfold isDrive at h
  split at h
  · simp only [Bool.and_eq_true, Bool.or_eq_true, beq_iff_eq] at h
    exact ⟨_, _, rfl, h⟩
  · exact absurd h nofun

theorem ne_of_isAlpha (c d : Char) (h : c.isAlpha = true) (hd : d.isAlpha = false) : d ≠ c := by
  rintro rfl
  rw [h] at hd
  exact absurd hd nofun

theorem soundSegment_drive (c d : Char) (hc : c.isAlpha = true) (hd : d = ':' ∨ d = '|') :
    SoundSegment [c, d] := by
  have hslash := ne_of_isAlpha c '/' hc (by decide)
  have hquestion := ne_of_isAlpha c '?' hc (by decide)
  rcases hd with rfl | rfl <;> simp [SoundSegment, hslash, hquestion]

theorem mem_of_mem_shorten (segments : List (List Char)) (s : List Char)
    (h : s ∈ shorten segments) : s ∈ segments := by
  unfold shorten at h
  split at h
  · split at h
    · exact h
    · exact List.dropLast_subset segments h
  · exact absurd h List.not_mem_nil

theorem soundSegment_addSegment (file last : Bool) (segments : List (List Char)) (s : List Char)
    (hs : SoundSegment s) (h : ∀ t ∈ segments, SoundSegment t) :
    ∀ t ∈ addSegment file last segments s, SoundSegment t := by
  have hending : ∀ front : List (List Char), (∀ t ∈ front, SoundSegment t) →
      ∀ t ∈ if last then front ++ [[]] else front, SoundSegment t := by
    intro front hfront t ht
    split at ht
    · rcases List.mem_append.mp ht with ht | ht
      · exact hfront t ht
      · rw [List.mem_singleton.mp ht]
        exact soundSegment_nil
    · exact hfront t ht
  have hadded : ∀ one, SoundSegment one → ∀ t ∈ segments ++ [one], SoundSegment t := by
    intro one hone t ht
    rcases List.mem_append.mp ht with ht | ht
    · exact h t ht
    · rw [List.mem_singleton.mp ht]
      exact hone
  simp only [addSegment]
  split
  · exact hending _ fun t ht => h t (mem_of_mem_shorten segments t ht)
  · split
    · exact hending segments h
    · split
      case isTrue hdrive =>
        simp only [Bool.and_eq_true] at hdrive
        obtain ⟨c, d, rfl, hc, -⟩ := eq_pair_of_isDrive s hdrive.2
        exact hadded _ (soundSegment_drive c ':' hc (.inl rfl))
      · exact hadded s hs

theorem soundSegment_addSegments (file : Bool) (parts segments : List (List Char))
    (hparts : ∀ s ∈ parts, SoundSegment s) (h : ∀ t ∈ segments, SoundSegment t) :
    ∀ t ∈ addSegments file segments parts, SoundSegment t := by
  induction parts generalizing segments with
  | nil => exact h
  | cons s rest ih =>
    have hs := hparts s (by simp)
    cases rest with
    | nil => exact soundSegment_addSegment file true segments s hs h
    | cons next rest =>
      exact ih _ (fun t ht => hparts t (List.mem_cons_of_mem _ ht))
        (soundSegment_addSegment file false segments s hs h)

theorem soundSegment_segmentsAfter (special file : Bool) (segments : List (List Char))
    (path : List Char) (h : ∀ t ∈ segments, SoundSegment t) :
    ∀ t ∈ segmentsAfter special file segments path, SoundSegment t := by
  apply soundSegment_addSegments file _ segments _ h
  intro s hs
  obtain ⟨part, hpart, rfl⟩ := List.mem_map.mp hs
  apply soundSegment_encode _ part (by decide)
  right
  intro hslash
  have hsep := (Text.mem_of_mem_splitAt _ path part '/' hpart hslash).2
  simp at hsep

theorem soundSegment_brokenDrive (s drive after : List Char)
    (h : brokenDrive? s = some (drive, after)) : SoundSegment drive := by
  unfold brokenDrive? at h
  split at h
  · split at h
    · split at h
      case isTrue hdrive =>
        simp only [Bool.and_eq_true] at hdrive
        obtain ⟨c, d, hpair, hc, hd⟩ := eq_pair_of_isDrive _ hdrive.1.1
        split at h
        · split at h
          · exact absurd h nofun
          · obtain ⟨rfl, -⟩ := Prod.mk.inj (Option.some.inj h)
            rw [hpair]
            exact soundSegment_drive c d hc hd
        · exact absurd h nofun
      · exact absurd h nofun
    · exact absurd h nofun
  · exact absurd h nofun

theorem soundSegment_fileSegments (rooted : Bool) (path : List Char) :
    ∀ t ∈ (fileSegments rooted path).1, SoundSegment t := by
  unfold fileSegments
  simp only
  split
  case h_1 drive after hbroken =>
    have hdrive : SoundSegment drive := by
      split at hbroken
      · exact soundSegment_brokenDrive _ drive after hbroken
      · exact absurd hbroken nofun
    have hfirst : SoundSegment (encode EncodeSet.path (visible (after.takeWhile (!isSlash ·)))) := by
      apply soundSegment_encode _ _ (by decide)
      right
      intro hslash
      have htaken := List.all_eq_true.mp List.all_takeWhile '/' (List.mem_filter.mp hslash).1
      exact absurd htaken (by decide)
    have hfront : ∀ t ∈ [drive, encode EncodeSet.path (visible (after.takeWhile (!isSlash ·)))],
        SoundSegment t := by
      intro t ht
      rcases List.mem_cons.mp ht with rfl | ht
      · exact hdrive
      · rw [List.mem_singleton.mp ht]
        exact hfirst
    split
    · exact soundSegment_segmentsAfter true true _ _ hfront
    · exact hfront
  · exact soundSegment_segmentsAfter true true [] _ (by simp)

theorem mem_of_mem_dropEmptyFront (segments : List (List Char)) (s : List Char)
    (h : s ∈ dropEmptyFront segments) : s ∈ segments := by
  fun_induction dropEmptyFront segments with
  | case1 second rest ih => exact List.mem_cons_of_mem _ (ih h)
  | case2 => exact h

theorem dropEmptyFront_idem (segments : List (List Char)) :
    dropEmptyFront (dropEmptyFront segments) = dropEmptyFront segments := by
  fun_induction dropEmptyFront segments with
  | case1 second rest ih => exact ih
  | case2 segments hfront => rw [dropEmptyFront]; exact hfront

/-- What holds of the path of a URL that was read. -/
structure Read (u : Url) : Prop where
  sound : u.Sound
  trimmed : trimFile (isFileScheme u.scheme) u.segments = u.segments

theorem read_withAuthority (scheme s : List Char) (u : Url) (notFile : isFileScheme scheme = false)
    (h : withAuthority scheme s = .ok u) : Read u := by
  unfold withAuthority at h
  obtain ⟨⟨authority, start⟩, -, h⟩ := (bind_eq_ok _ _ _).mp h
  obtain rfl := Except.ok.inj h
  constructor
  · intro t ht
    simp only [complete] at ht
    split at ht
    · exact absurd ht List.not_mem_nil
    · exact soundSegment_segmentsAfter _ false [] _ (by simp) t ht
  · simp only [complete, notFile]
    rfl

theorem read_file (scheme s : List Char) (u : Url) (isFile : isFileScheme scheme = true)
    (h : file scheme s = .ok u) : Read u := by
  unfold file at h
  obtain ⟨start, -, h⟩ := (bind_eq_ok _ _ _).mp h
  obtain rfl := Except.ok.inj h
  constructor
  · intro t ht
    exact soundSegment_fileSegments _ _ t (mem_of_mem_dropEmptyFront _ t ht)
  · simp only [complete, isFile]
    exact dropEmptyFront_idem _

theorem read_of_read (s : String) (u : Url) (h : read s = .ok u) : Read u := by
  unfold read at h
  simp only at h
  split at h
  · exact absurd h nofun
  · split at h
    case isTrue isFile => exact read_file _ _ u isFile h
    case isFalse notFile =>
      have notFile := Bool.eq_false_iff.mpr notFile
      split at h
      · exact read_withAuthority _ _ u notFile h
      · split at h
        · exact read_withAuthority _ _ u notFile h
        · obtain rfl := Except.ok.inj h
          constructor
          · exact soundSegment_segmentsAfter false false [] _ (by simp)
          · simp only [complete, notFile]
            rfl
        · exact absurd h nofun

/-- A name that comes out as dots alone only when the characters that no URL keeps are dropped. -/
def HidesDots (name : List Char) : Prop :=
  (visible name = ['.'] ∨ visible name = ['.', '.']) ∧ name ≠ visible name

def written (scheme name : List Char) : List Char :=
  encode (if isSpecialScheme scheme then EncodeSet.specialSegment else EncodeSet.segment)
    (visible name)

def pushed (scheme name : List Char) : List (List Char) :=
  if name = ['.'] ∨ name = ['.', '.'] then [] else [written scheme name]

theorem decode_written (scheme name : List Char) :
    decode (written scheme name) = bytes (visible name) := by
  unfold written
  split <;> exact decode_encode _ rfl _

theorem soundSegment_written (scheme name : List Char) : SoundSegment (written scheme name) := by
  unfold written
  split <;> exact soundSegment_encode _ _ (by decide) (.inl (by decide))

theorem exists_utf8 (c : Char) : ∃ b rest, utf8 c = b :: rest ∧ (b.toNat = 46 → c = '.') := by
  unfold utf8 String.utf8EncodeChar
  simp only
  split
  · refine ⟨_, _, rfl, fun h => Char.ext (UInt32.toNat_inj.mp ?_)⟩
    rw [UInt8.toNat_ofNat'] at h
    change c.val.toNat = 46
    omega
  · split
    · refine ⟨_, _, rfl, fun h => ?_⟩
      rw [UInt8.toNat_ofNat'] at h
      omega
    · split
      · refine ⟨_, _, rfl, fun h => ?_⟩
        rw [UInt8.toNat_ofNat'] at h
        omega
      · refine ⟨_, _, rfl, fun h => ?_⟩
        rw [UInt8.toNat_ofNat'] at h
        omega

theorem dropDot_encodeByte (b : UInt8) (rest after : List Char)
    (h : dropDot (encodeByte b ++ rest) = some after) : b.toNat = 46 := by
  change dropDot ('%' :: hexDigitUpper (b / 16) :: hexDigitUpper (b % 16) :: rest) = _ at h
  have hhigh := hexValue?_hexDigitUpper _ (toNat_div_lt b)
  have hlow := hexValue?_hexDigitUpper _ (toNat_mod_lt b)
  generalize hexDigitUpper (b / 16) = x at h hhigh
  generalize hexDigitUpper (b % 16) = y at h hlow
  rw [UInt8.toNat_div] at hhigh
  rw [UInt8.toNat_mod] at hlow
  change hexValue? x = some (b.toNat / 16) at hhigh
  change hexValue? y = some (b.toNat % 16) at hlow
  unfold dropDot at h
  split at h
  case h_1 heq => exact absurd (List.cons.inj heq).1 (by decide)
  case h_2 digit _ heq =>
    obtain ⟨rfl, hdigits⟩ := List.cons.inj (List.cons.inj heq).2
    obtain ⟨rfl, -⟩ := List.cons.inj hdigits
    have htwo : b.toNat / 16 = 2 := Option.some.inj (hhigh.symm.trans (by decide))
    split at h
    case isTrue he =>
      have hfourteen : b.toNat % 16 = 14 := by
        simp only [Bool.or_eq_true, decide_eq_true_eq] at he
        rcases he with rfl | rfl <;> exact Option.some.inj (hlow.symm.trans (by decide))
      omega
    case isFalse => exact absurd h nofun
  case h_3 => exact absurd h nofun

section

variable (set : EncodeSet)

theorem encode_cons (c : Char) (s : List Char) : encode set (c :: s) = encodeChar set c ++ encode set s :=
  List.flatMap_cons

theorem encode_ne_nil (s : List Char) (h : s ≠ []) : encode set s ≠ [] := by
  obtain ⟨c, rest, rfl⟩ := List.exists_cons_of_ne_nil h
  obtain ⟨b, bs, hb, -⟩ := exists_utf8 c
  unfold encode encodeChar
  rw [List.flatMap_cons, hb]
  split <;> simp [encodeByte]

theorem dropDot_encode (percent : set '%' = true) (dot : set '.' = false) (c : Char)
    (s : List Char) : dropDot (encode set (c :: s)) = if c = '.' then some (encode set s) else none := by
  rw [encode_cons]
  by_cases hc : c = '.'
  · subst hc
    rw [if_pos rfl, encodeChar, if_neg (by simp [dot])]
    rfl
  · rw [if_neg hc, encodeChar]
    by_cases hset : set c = true
    · obtain ⟨b, bs, hb, hdot⟩ := exists_utf8 c
      rw [if_pos hset, hb, List.flatMap_cons, List.append_assoc]
      cases h : dropDot (encodeByte b ++ (bs.flatMap encodeByte ++ encode set s)) with
      | none => rfl
      | some after => exact absurd (hdot (dropDot_encodeByte b _ after h)) hc
    · have hpercent : c ≠ '%' := by
        rintro rfl
        exact hset percent
      rw [if_neg hset, List.singleton_append]
      unfold dropDot
      split
      case h_1 heq => exact absurd (List.cons.inj heq).1 hc
      case h_2 heq => exact absurd (List.cons.inj heq).1 hpercent
      case h_3 => rfl

theorem isSingleDot_encode (percent : set '%' = true) (dot : set '.' = false) (s : List Char)
    (h : isSingleDot (encode set s) = true) : s = ['.'] := by
  unfold isSingleDot at h
  cases s with
  | nil => exact absurd h (by simp [encode, dropDot])
  | cons c rest =>
    rw [dropDot_encode set percent dot, beq_iff_eq] at h
    split at h
    case isTrue hc =>
      have hrest : rest = [] := by
        by_contra hne
        exact encode_ne_nil set rest hne (Option.some.inj h)
      rw [hc, hrest]
    case isFalse => simp at h

theorem isDoubleDot_encode (percent : set '%' = true) (dot : set '.' = false) (s : List Char)
    (h : isDoubleDot (encode set s) = true) : s = ['.', '.'] := by
  unfold isDoubleDot at h
  cases s with
  | nil => exact absurd h (by simp [encode, dropDot])
  | cons c rest =>
    rw [dropDot_encode set percent dot, beq_iff_eq] at h
    split at h
    case isTrue hc =>
      have hrest : rest = ['.'] := by
        apply isSingleDot_encode set percent dot
        rw [isSingleDot, beq_iff_eq]
        exact h
      rw [hc, hrest]
    case isFalse => simp at h

end

theorem dots_of_written (scheme name : List Char) :
    (isSingleDot (written scheme name) = true → visible name = ['.']) ∧
      (isDoubleDot (written scheme name) = true → visible name = ['.', '.']) := by
  unfold written
  split
  · exact ⟨isSingleDot_encode _ (by decide) (by decide) _,
      isDoubleDot_encode _ (by decide) (by decide) _⟩
  · exact ⟨isSingleDot_encode _ (by decide) (by decide) _,
      isDoubleDot_encode _ (by decide) (by decide) _⟩

theorem addSegment_written (file : Bool) (segments : List (List Char)) (scheme name : List Char)
    (hname : visible name ≠ ['.'] ∧ visible name ≠ ['.', '.'])
    (hdrive : segments ≠ [] ∨ isDrive (written scheme name) = false) :
    addSegment file true segments (written scheme name) = segments ++ [written scheme name] := by
  obtain ⟨hsingle, hdouble⟩ := dots_of_written scheme name
  have hnodrive : ¬(file && segments.isEmpty && isDrive (written scheme name)) = true := by
    rcases hdrive with hne | hdrive
    · simp [hne]
    · simp [hdrive]
  simp only [addSegment]
  rw [if_neg fun h => hname.2 (hdouble h), if_neg fun h => hname.1 (hsingle h), if_neg hnodrive]

theorem dropEmptyFront_of_head (segments : List (List Char)) (h : segments.head? ≠ some []) :
    dropEmptyFront segments = segments := by
  unfold dropEmptyFront
  split
  · exact absurd rfl h
  · rfl

structure Begun (u : Url) : Prop where
  ne_nil : u.segments ≠ []
  ne_root : u.segments ≠ [[]]
  head : isFileScheme u.scheme = true → u.segments.head? ≠ some []

theorem push_of_dots (u : Url) (name : List Char) (h : name = ['.'] ∨ name = ['.', '.']) :
    push u name = u := by
  rw [push, if_pos (by simpa using h)]

theorem segments_push (u : Url) (name : List Char)
    (hname : visible name ≠ ['.'] ∧ visible name ≠ ['.', '.'])
    (hdrive : opened u.segments ≠ [] ∨ isDrive (written u.scheme name) = false)
    (hhead : isFileScheme u.scheme = true →
      (opened u.segments ++ [written u.scheme name]).head? ≠ some []) :
    push u name = { u with segments := opened u.segments ++ [written u.scheme name] } := by
  have hdots : ¬(name = ['.'] || name = ['.', '.']) = true := by
    intro h
    have h : name = ['.'] ∨ name = ['.', '.'] := by simpa using h
    rcases h with rfl | rfl
    · exact hname.1 rfl
    · exact hname.2 rfl
  have hadd := addSegment_written (isFileScheme u.scheme) (opened u.segments) u.scheme name hname hdrive
  rw [push, if_neg hdots]
  change Url.mk _ _ (trimFile (isFileScheme u.scheme) (addSegment (isFileScheme u.scheme) true
    (opened u.segments) (written u.scheme name))) _ _ = _
  rw [hadd, trimFile]
  split
  case isTrue hfile => rw [dropEmptyFront_of_head _ (hhead hfile)]
  case isFalse => rfl

theorem opened_of_begun (u : Url) (h : Begun u) : opened u.segments = u.segments :=
  if_neg h.ne_root

theorem push_of_begun (u : Url) (name : List Char) (h : Begun u) (hname : ¬HidesDots name) :
    push u name = { u with segments := u.segments ++ pushed u.scheme name } := by
  unfold pushed
  by_cases hdots : name = ['.'] ∨ name = ['.', '.']
  · rw [push_of_dots u name hdots, if_pos hdots, List.append_nil]
  · have hvisible : visible name ≠ ['.'] ∧ visible name ≠ ['.', '.'] := by
      by_cases hsame : name = visible name
      · rw [← hsame]
        exact not_or.mp hdots
      · exact not_or.mp fun hor => hname ⟨hor, hsame⟩
    have hopened := opened_of_begun u h
    obtain ⟨first, rest, hsegments⟩ := List.exists_cons_of_ne_nil h.ne_nil
    have hhead := h.head
    rw [hsegments] at hhead
    rw [segments_push u name hvisible (.inl (by rw [hopened]; exact h.ne_nil))
      (by rw [hopened, hsegments]; exact hhead), hopened, if_neg hdots]

theorem begun_append (u : Url) (more : List (List Char)) (h : Begun u) :
    Begun { u with segments := u.segments ++ more } := by
  obtain ⟨first, rest, hsegments⟩ := List.exists_cons_of_ne_nil h.ne_nil
  have hroot := h.ne_root
  have hhead := h.head
  rw [hsegments] at hroot hhead ⊢
  refine ⟨nofun, ?_, hhead⟩
  intro heq
  obtain ⟨rfl, hrest⟩ := List.cons.inj heq
  rw [(List.append_eq_nil_iff.mp hrest).1] at hroot
  exact hroot rfl

theorem pushAll_of_begun (u : Url) (names : List (List Char)) (h : Begun u)
    (hnames : ∀ name ∈ names, ¬HidesDots name) :
    pushAll u names = { u with segments := u.segments ++ names.flatMap (pushed u.scheme) } := by
  induction names generalizing u with
  | nil => simp [pushAll]
  | cons name rest ih =>
    have hpush := push_of_begun u name h (hnames name (by simp))
    change pushAll (push u name) rest = _
    rw [hpush, ih _ (begun_append u _ h) fun n hn => hnames n (List.mem_cons_of_mem _ hn)]
    simp [List.append_assoc]

def ownSegments (segments : List (List Char)) : List (List Char) :=
  if segments.getLast? = some [] then segments.dropLast else segments

/-- When more segments are put behind a path, its own stay, unless it has two empty ones alone. -/
theorem opened_popIfEmpty (segments : List (List Char)) (h : segments ≠ [[], []]) :
    opened (popIfEmpty segments) = ownSegments segments := by
  match segments with
  | [] => rfl
  | [[]] => rfl
  | [c :: s] => simp [popIfEmpty, opened, ownSegments]
  | first :: second :: rest =>
    have hown : popIfEmpty (first :: second :: rest) = ownSegments (first :: second :: rest) := by
      unfold popIfEmpty ownSegments
      by_cases hlast : (first :: second :: rest).getLast? = some []
      · rw [if_pos hlast, if_pos (by simp [hlast])]
      · rw [if_neg hlast, if_neg (by simpa using hlast)]
    rw [hown, opened, if_neg]
    intro hroot
    unfold ownSegments at hroot
    split at hroot
    case isTrue hlast =>
      cases rest with
      | nil =>
        simp only [List.getLast?_cons_cons, List.getLast?_singleton, Option.some.injEq,
          List.dropLast_cons_cons, List.dropLast_singleton, List.cons.injEq, and_true] at hlast hroot
        exact h (by rw [hlast, hroot])
      | cons third rest => exact absurd (List.cons.inj hroot).2 (by simp)
    case isFalse => exact absurd (List.cons.inj hroot).2 (by simp)

theorem length_dropEmptyFront_le (segments : List (List Char)) :
    (dropEmptyFront segments).length ≤ segments.length := by
  fun_induction dropEmptyFront segments with
  | case1 second rest ih => exact Nat.le_succ_of_le ih
  | case2 => exact Nat.le_refl _

theorem eq_root_of_trimmed (segments : List (List Char)) (h : dropEmptyFront segments = segments)
    (hhead : segments.head? = some []) : segments = [[]] := by
  match segments with
  | [[]] => rfl
  | [] :: second :: rest =>
    have hlength := length_dropEmptyFront_le (second :: rest)
    have heq : dropEmptyFront (second :: rest) = [] :: second :: rest := h
    rw [heq] at hlength
    exact absurd hlength (by simp)

theorem head_ownSegments (segments : List (List Char)) (h : dropEmptyFront segments = segments) :
    (ownSegments segments).head? ≠ some [] := by
  intro hhead
  have hfirst : segments.head? = some [] := by
    unfold ownSegments at hhead
    split at hhead
    · cases segments with
      | nil => exact absurd hhead nofun
      | cons first rest =>
        cases rest with
        | nil => exact absurd hhead nofun
        | cons second rest => exact hhead
    · exact hhead
  rw [eq_root_of_trimmed segments h hfirst] at hhead
  exact absurd hhead (by decide)

theorem extend_api (u : Url) (names : List (List Char)) (hread : Read u)
    (hbase : u.segments ≠ [[], []]) (hnames : ∀ name ∈ names, ¬HidesDots name) :
    extend u ("api".toList :: names) =
      { u with segments := ownSegments u.segments ++ "api".toList ::
        names.flatMap (pushed u.scheme) } := by
  have hopened := opened_popIfEmpty u.segments hbase
  have hwritten : written u.scheme "api".toList = "api".toList := by
    unfold written
    split <;> rfl
  have hhead : isFileScheme u.scheme = true →
      (ownSegments u.segments ++ ["api".toList]).head? ≠ some [] := by
    intro hfile
    have htrimmed := hread.trimmed
    rw [hfile] at htrimmed
    have hown := head_ownSegments u.segments htrimmed
    cases hsegments : ownSegments u.segments with
    | nil => simp
    | cons first rest => rwa [hsegments] at hown
  have hpush : push { u with segments := popIfEmpty u.segments } "api".toList =
      { u with segments := ownSegments u.segments ++ ["api".toList] } := by
    have h := segments_push { u with segments := popIfEmpty u.segments } "api".toList
      (by decide) (.inr (by rw [hwritten]; decide))
      (by simp only [hopened, hwritten]; exact hhead)
    simp only [hopened, hwritten] at h
    exact h
  have hbegun : Begun { u with segments := ownSegments u.segments ++ ["api".toList] } := by
    refine ⟨by simp, ?_, hhead⟩
    intro heq
    have hlast := congrArg List.getLast? heq
    simp at hlast
  change pushAll (push { u with segments := popIfEmpty u.segments } "api".toList) names = _
  rw [hpush, pushAll_of_begun _ names hbegun hnames]
  simp [List.append_assoc]

end RecordSelection.Url
