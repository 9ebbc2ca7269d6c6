import Mathlib.Data.List.DropRight
import RoomBridge.Proofs.Percent

/-!
# Texts behind a base address

What is read as an address when a text is put behind a base address and a slash. Scheme and
authority are those of the base address; the segments of the text go on from its folder, up if they
are of points, and a question mark in the text starts the query.

* `Address.folder` : the segments of a base address;
* `Address.walk_append`, `Address.splitPath_append_cons` : paths in two pieces;
* `Address.read?_of_cutAt` : what is read as an address, by its parts;
* `Address.read?_append` : what is read when a text stands behind a base address.
-/

namespace RoomBridge

namespace Address

/-! ## Paths -/

/-- The path of an address without an empty segment at its end. -/
def folder (a : Address) : List String :=
  if a.path.getLast? = some "" then a.path.dropLast else a.path

/-- The segments that a segment leaves of those above it, the nearest first. -/
def climb (above : List String) (segment : List Char) : List String :=
  if isUp segment then above.tail
  else if isHere segment then above
  else String.ofList (percentEncode pathMust segment) :: above

theorem walk_cons (above : List String) (segment : List Char) {rest : List (List Char)}
    (h : rest ≠ []) : walk above (segment :: rest) = walk (climb above segment) rest := by
  obtain ⟨next, rest, rfl⟩ := List.exists_cons_of_ne_nil h
  rw [walk, climb]
  split
  · rfl
  · split <;> rfl

theorem walk_append (above : List String) (before : List (List Char)) {rest : List (List Char)}
    (h : rest ≠ []) : walk above (before ++ rest) = walk (before.foldl climb above) rest := by
  induction before generalizing above with
  | nil => rfl
  | cons segment before ih =>
    have hne : before ++ rest ≠ [] := by simp [h]
    rw [List.cons_append, walk_cons above segment hne, ih, List.foldl_cons]

/-- A path ends in its last segment, or in an empty one if that one is of points. -/
theorem walk_concat (above : List String) (before : List (List Char)) (last : List Char) :
    walk above (before ++ [last]) =
      if isUp last || isHere last then ((before ++ [last]).foldl climb above).reverse ++ [""]
      else (before.foldl climb above).reverse ++
        [String.ofList (percentEncode pathMust last)] := by
  rw [walk_append above before (List.cons_ne_nil last []), walk, List.foldl_append,
    List.foldl_cons, List.foldl_nil, climb]
  by_cases hup : isUp last = true
  · simp [hup]
  · by_cases hhere : isHere last = true
    · simp [hup, hhere]
    · simp [hup, hhere]

theorem percentEncode_ne_nil (must : Char → Bool) {cs : List Char} (h : cs ≠ []) :
    percentEncode must cs ≠ [] := by
  obtain ⟨c, cs, rfl⟩ := List.exists_cons_of_ne_nil h
  cases hc : must c with
  | true =>
    obtain ⟨rest, hrest⟩ := percentEncode_of_must hc cs
    rw [hrest]
    exact List.cons_ne_nil _ _
  | false =>
    rw [percentEncode_of_not_must hc]
    exact List.cons_ne_nil _ _

/-- A path that does not end in an empty segment leads into the folder it names. -/
theorem folder_eq {a : Address} {segments : List (List Char)} {last : List Char}
    (hpath : a.path = walk [] segments) (hlast : segments.getLast? = some last) (hne : last ≠ []) :
    a.folder = (segments.foldl climb []).reverse := by
  obtain ⟨before, rfl⟩ := List.getLast?_eq_some_iff.mp hlast
  rw [folder, hpath, walk_concat]
  by_cases hpoints : (isUp last || isHere last) = true
  · rw [if_pos hpoints]
    simp
  · have hencoded : String.ofList (percentEncode pathMust last) ≠ "" := by
      simp [percentEncode_ne_nil pathMust hne]
    have hclimb : climb (before.foldl climb []) last =
        String.ofList (percentEncode pathMust last) :: before.foldl climb [] := by
      rw [Bool.or_eq_true, not_or] at hpoints
      rw [climb, if_neg hpoints.1, if_neg hpoints.2]
    rw [if_neg hpoints, List.foldl_append, List.foldl_cons, List.foldl_nil, hclimb]
    simp [hencoded]

theorem splitPath_slash {c : Char} (h : isSlash c = true) (cs : List Char) :
    splitPath (c :: cs) = [] :: splitPath cs := if_pos h

/-- A character that is no slash opens the first segment. -/
theorem splitPath_cons {c : Char} {cs s : List Char} {ss : List (List Char)}
    (h : isSlash c = false) (hs : splitPath cs = s :: ss) : splitPath (c :: cs) = (c :: s) :: ss := by
  rw [splitPath, hs, h]
  rfl

theorem exists_splitPath (cs : List Char) : ∃ s ss, splitPath cs = s :: ss := by
  induction cs with
  | nil => exact ⟨[], [], rfl⟩
  | cons c cs ih =>
    obtain ⟨s, ss, hs⟩ := ih
    cases h : isSlash c with
    | true => exact ⟨[], splitPath cs, splitPath_slash h cs⟩
    | false => exact ⟨c :: s, ss, splitPath_cons h hs⟩

theorem splitPath_ne_nil (cs : List Char) : splitPath cs ≠ [] := by
  obtain ⟨s, ss, hs⟩ := exists_splitPath cs
  rw [hs]
  exact List.cons_ne_nil s ss

/-- A slash ends the segments before it and opens those after it. -/
theorem splitPath_append_cons (xs ys : List Char) :
    splitPath (xs ++ '/' :: ys) = splitPath xs ++ splitPath ys := by
  induction xs with
  | nil => exact splitPath_slash (by decide) ys
  | cons c xs ih =>
    rw [List.cons_append]
    cases h : isSlash c with
    | true => rw [splitPath_slash h, ih, splitPath_slash h, List.cons_append]
    | false =>
      obtain ⟨s, ss, hs⟩ := exists_splitPath xs
      rw [hs, List.cons_append] at ih
      rw [splitPath_cons h ih, splitPath_cons h hs, List.cons_append]

theorem splitPath_of_no_slash {cs : List Char} (h : ∀ c ∈ cs, isSlash c = false) :
    splitPath cs = [cs] := by
  induction cs with
  | nil => rfl
  | cons c cs ih =>
    exact splitPath_cons (h c List.mem_cons_self) (ih fun d hd => h d (List.mem_cons_of_mem c hd))

/-- A segment is a part of the path, and has no slash. -/
theorem of_mem_splitPath {cs segment : List Char} (h : segment ∈ splitPath cs) :
    segment.Sublist cs ∧ ∀ c ∈ segment, isSlash c = false := by
  induction cs generalizing segment with
  | nil =>
    cases List.mem_singleton.mp h
    exact ⟨List.Sublist.refl _, by simp⟩
  | cons c cs ih =>
    cases hc : isSlash c with
    | true =>
      rw [splitPath_slash hc] at h
      rcases List.mem_cons.mp h with rfl | hmem
      · exact ⟨List.nil_sublist _, by simp⟩
      · exact ⟨(ih hmem).1.cons c, (ih hmem).2⟩
    | false =>
      obtain ⟨s, ss, hs⟩ := exists_splitPath cs
      rw [splitPath_cons hc hs] at h
      rw [hs] at ih
      rcases List.mem_cons.mp h with rfl | hmem
      · obtain ⟨hsub, hslash⟩ := ih List.mem_cons_self
        exact ⟨hsub.cons_cons c, List.forall_mem_cons.mpr ⟨hc, hslash⟩⟩
      · obtain ⟨hsub, hslash⟩ := ih (List.mem_cons_of_mem s hmem)
        exact ⟨hsub.cons c, hslash⟩

/-- A path that does not end in a slash does not end in an empty segment. -/
theorem getLast?_splitPath {cs : List Char} {c : Char} (hlast : cs.getLast? = some c)
    (hc : isSlash c = false) : ∃ segment, (splitPath cs).getLast? = some segment ∧ segment ≠ [] := by
  obtain ⟨before, rfl⟩ := List.getLast?_eq_some_iff.mp hlast
  clear hlast
  induction before with
  | nil => exact ⟨[c], by rw [List.nil_append, splitPath_cons hc rfl]; rfl, List.cons_ne_nil c []⟩
  | cons d before ih =>
    obtain ⟨segment, hsegment, hne⟩ := ih
    rw [List.cons_append]
    cases hd : isSlash d with
    | true =>
      refine ⟨segment, ?_, hne⟩
      rw [splitPath_slash hd, List.getLast?_cons, hsegment, Option.getD_some]
    | false =>
      obtain ⟨s, ss, hs⟩ := exists_splitPath (before ++ [c])
      rw [hs] at hsegment
      rw [splitPath_cons hd hs]
      cases ss with
      | nil => exact ⟨d :: s, rfl, List.cons_ne_nil d s⟩
      | cons t ts => exact ⟨segment, by simpa using hsegment, hne⟩

/-! ## Reading -/

theorem dropWhile_append_cons {p : Char → Bool} {c : Char} (h : p c = false)
    (xs ys : List Char) : (xs ++ c :: ys).dropWhile p = xs.dropWhile p ++ c :: ys := by
  rw [List.dropWhile_append, List.dropWhile_cons, h]
  split
  · next hnil =>
    rw [List.isEmpty_iff.mp hnil]
    rfl
  · rfl

/-- Characters that do not count around an address. -/
def isAround (c : Char) : Bool := c.toNat ≤ 0x20

/-- Characters that do not count in an address. -/
def isBreak (c : Char) : Bool := ['\t', '\n', '\r'].contains c

/-- What counts of a text at the end of an address. -/
def tidied (cs : List Char) : List Char := (cs.rdropWhile isAround).filter (!isBreak ·)

theorem cleaned_eq (s : String) : cleaned s = tidied (s.toList.dropWhile isAround) := by
  refine List.filter_congr fun c _ => ?_
  simp [isBreak, Bool.and_assoc]

theorem tidied_sublist (cs : List Char) : (tidied cs).Sublist cs :=
  List.filter_sublist.trans (List.rdropWhile_prefix isAround cs).sublist

theorem cleaned_sublist (s : String) : (cleaned s).Sublist s.toList := by
  rw [cleaned_eq]
  exact (tidied_sublist _).trans (List.dropWhile_sublist isAround)

theorem isBreak_of_not_around {c : Char} (h : isAround c = false) : isBreak c = false := by
  rw [← Bool.not_eq_true]
  intro hbreak
  have hall : ['\t', '\n', '\r'].all isAround = true := by decide
  have haround := List.all_eq_true.mp hall c (List.contains_iff_mem.mp hbreak)
  rw [h] at haround
  cases haround

/-- A character that counts keeps everything before it. -/
theorem tidied_append_cons (xs ys : List Char) {c : Char} (h : isAround c = false) :
    tidied (xs ++ c :: ys) = xs.filter (!isBreak ·) ++ c :: tidied ys := by
  have hdropped : (xs ++ c :: ys).rdropWhile isAround = xs ++ c :: ys.rdropWhile isAround := by
    simp [List.rdropWhile, dropWhile_append_cons h]
  rw [tidied, hdropped, List.filter_append, List.filter_cons, isBreak_of_not_around h]
  rfl

section Ends

variable {base : String} {c : Char} (hlast : base.toList.getLast? = some c)
  (hc : isAround c = false)

include hlast hc

/-- A base address ends in the same character when it is cleaned. -/
theorem dropWhile_isAround_base : ∃ before,
    base.toList.dropWhile isAround = before ++ [c] ∧
      ∀ ys, (base.toList ++ ys).dropWhile isAround = before ++ c :: ys := by
  obtain ⟨start, hstart⟩ := List.getLast?_eq_some_iff.mp hlast
  refine ⟨start.dropWhile isAround, ?_, fun ys => ?_⟩
  · rw [hstart, dropWhile_append_cons hc]
  · rw [hstart, List.append_assoc, List.singleton_append, dropWhile_append_cons hc]

theorem getLast?_cleaned : (cleaned base).getLast? = some c := by
  obtain ⟨before, hbefore, -⟩ := dropWhile_isAround_base hlast hc
  rw [cleaned_eq, hbefore, tidied_append_cons before [] hc]
  simp [tidied]

theorem cleaned_append (behind : String) :
    cleaned (base ++ "/" ++ behind) = cleaned base ++ '/' :: tidied behind.toList := by
  obtain ⟨before, hbefore, hall⟩ := dropWhile_isAround_base hlast hc
  have hlist : (base ++ "/" ++ behind).toList = base.toList ++ '/' :: behind.toList := by simp
  rw [cleaned_eq, cleaned_eq, hlist, hall, hbefore, tidied_append_cons before _ hc,
    tidied_append_cons before [] hc]
  have hslash := tidied_append_cons [] behind.toList (c := '/') (by decide)
  rw [List.nil_append] at hslash
  rw [hslash]
  simp [tidied]

end Ends

/-- The address that a scheme and what follows its slashes write. -/
def ofParts (scheme written : List Char) : Address where
  scheme := String.ofList (Text.lower scheme)
  authority := String.ofList ((Text.upTo '?' written).takeWhile (!isSlash ·))
  path := walk [] (splitPath (((Text.upTo '?' written).dropWhile (!isSlash ·)).drop 1))
  query := (Text.cutAt '?' written).map fun parts =>
    String.ofList (percentEncode queryMust parts.2)

theorem guarded_eq_some_iff (p q : Prop) [Decidable p] [Decidable q] (a b : Address) :
    ((guard p : Option Unit).bind fun _ => (guard q : Option Unit).bind fun _ => some a) = some b ↔
      a = b ∧ p ∧ q := by
  have hfailure : (failure : Option Unit) = none := rfl
  unfold guard
  rw [hfailure]
  by_cases hp : p <;> by_cases hq : q <;> simp [hp, hq]

/-- An address is read if its scheme is known and its authority names a host. -/
theorem read?_of_cutAt {s : String} {scheme rest : List Char}
    (h : Text.cutAt ':' (cleaned s) = some (scheme, rest)) (a : Address) :
    read? s = some a ↔ ofParts scheme (Text.upTo '#' (rest.dropWhile isSlash)) = a ∧
      (a.scheme = "http" ∨ a.scheme = "https") ∧ isAuthority a.authority.toList = true := by
  have hread : ∀ parts, parts = ofParts scheme (Text.upTo '#' (rest.dropWhile isSlash)) →
      read? s = ((guard (parts.scheme = "http" ∨ parts.scheme = "https") : Option Unit).bind
        fun _ => (guard (isAuthority parts.authority.toList = true) : Option Unit).bind
          fun _ => some parts) := by
    rintro parts rfl
    have hplace := Text.upTo_eq '?' (Text.upTo '#' (rest.dropWhile isSlash))
    rw [read?, h, ofParts, hplace, String.toList_ofList]
    dsimp only [Option.bind_eq_bind, Option.bind_some]
    cases hcut : Text.cutAt '?' (Text.upTo '#' (rest.dropWhile isSlash)) with
    | none => rfl
    | some parts => rfl
  rw [hread _ rfl, guarded_eq_some_iff]
  refine and_congr_right ?_
  rintro rfl
  exact Iff.rfl

/-! ## Addresses put behind a base address -/

/-- A text writes a base address: nothing of it is a query or a fragment, and it ends in a character
that counts and is not a slash. -/
structure IsBase (base : String) (a : Address) : Prop where
  read : read? base = some a
  noQuery : '?' ∉ base.toList
  noFragment : '#' ∉ base.toList
  ends : ∃ c, base.toList.getLast? = some c ∧ isAround c = false ∧ isSlash c = false

/-- The segments that a text puts behind a base address. -/
def segmentsBehind (behind : String) : List (List Char) :=
  splitPath (Text.upTo '?' (Text.upTo '#' (tidied behind.toList)))

/-- The query that a text puts behind a base address. -/
def queryBehind (behind : String) : Option String :=
  (Text.cutAt '?' (Text.upTo '#' (tidied behind.toList))).map fun parts =>
    String.ofList (percentEncode queryMust parts.2)

theorem takeWhile_append_slash (xs ys : List Char) :
    (xs ++ '/' :: ys).takeWhile (!isSlash ·) = xs.takeWhile (!isSlash ·) := by
  rw [List.takeWhile_append]
  split
  · next hlength =>
    have hall := (List.takeWhile_sublist (!isSlash ·)).eq_of_length hlength
    rw [hall]
    simp [isSlash]
  · rfl

theorem dropWhile_append_slash (xs ys : List Char) :
    (xs ++ '/' :: ys).dropWhile (!isSlash ·) = xs.dropWhile (!isSlash ·) ++ '/' :: ys :=
  dropWhile_append_cons (by decide) xs ys

theorem getLast?_of_suffix {xs ys : List Char} (h : ys <:+ xs) (hne : ys ≠ []) :
    ys.getLast? = xs.getLast? := by
  obtain ⟨before, rfl⟩ := h
  obtain ⟨c, hc⟩ := Option.isSome_iff_exists.mp (List.getLast?_isSome.mpr hne)
  rw [List.getLast?_append, hc, Option.some_or]

/-- What is put behind an address without a slash at its end adds to the segments of its folder. -/
theorem exists_segments {a : Address} (place : List Char)
    (hpath : a.path = walk [] (splitPath ((place.dropWhile (!isSlash ·)).drop 1)))
    (hlast : ∀ c, place.getLast? = some c → isSlash c = false) :
    ∃ segments, a.folder.reverse = segments.foldl climb [] ∧
      ∀ ys, splitPath (((place ++ '/' :: ys).dropWhile (!isSlash ·)).drop 1) =
        segments ++ splitPath ys := by
  cases hdrop : place.dropWhile (!isSlash ·) with
  | nil =>
    have hroot : a.path = [""] := by
      rw [hpath, hdrop]
      decide
    refine ⟨[], by simp [folder, hroot], fun ys => ?_⟩
    rw [dropWhile_append_slash, hdrop]
    rfl
  | cons slash rest =>
    rw [hdrop, List.drop_one, List.tail_cons] at hpath
    have hslash : isSlash slash = true := by
      have hhead := List.head?_dropWhile_not (!isSlash ·) place
      rw [hdrop] at hhead
      simpa using hhead
    -- The slash in front of the path is not the last character, for that one is not a slash.
    have hsuffix : slash :: rest <:+ place := hdrop ▸ List.dropWhile_suffix (!isSlash ·)
    have hsame := getLast?_of_suffix hsuffix (List.cons_ne_nil slash rest)
    rw [List.getLast?_cons] at hsame
    obtain ⟨segment, hsegment, hne⟩ :=
      getLast?_splitPath (List.getLast?_cons (a := slash)) (hlast _ hsame.symm)
    have hsplit : splitPath (slash :: rest) = [] :: splitPath rest := splitPath_slash hslash rest
    rw [hsplit, List.getLast?_cons_of_ne_nil (splitPath_ne_nil rest)] at hsegment
    refine ⟨splitPath rest, ?_, fun ys => ?_⟩
    · rw [folder_eq hpath hsegment hne, List.reverse_reverse]
    · rw [dropWhile_append_slash, hdrop]
      exact splitPath_append_cons rest ys

/-- The path of a base address leads into its folder. -/
theorem ofParts_append {scheme written : List Char} (hquery : '?' ∉ written)
    (hlast : ∀ c, written.getLast? = some c → isSlash c = false) (ys : List Char) :
    ofParts scheme (written ++ '/' :: ys) = { ofParts scheme written with
      path := walk (ofParts scheme written).folder.reverse (splitPath (Text.upTo '?' ys))
      query := (Text.cutAt '?' ys).map fun parts =>
        String.ofList (percentEncode queryMust parts.2) } := by
  have hplace : Text.upTo '?' (written ++ '/' :: ys) = written ++ '/' :: Text.upTo '?' ys := by
    rw [Text.upTo_append_of_not_mem hquery]
    rfl
  have hcut : Text.cutAt '?' (written ++ '/' :: ys) =
      (Text.cutAt '?' ys).map fun parts => (written ++ '/' :: parts.1, parts.2) := by
    rw [Text.cutAt_append_of_not_mem hquery, Text.cutAt_cons_of_ne (by decide), Option.map_map]
    rfl
  have hwritten := Text.upTo_of_not_mem hquery
  have hpath : (ofParts scheme written).path =
      walk [] (splitPath ((written.dropWhile (!isSlash ·)).drop 1)) := by
    rw [ofParts, hwritten]
  obtain ⟨segments, hfolder, hsegments⟩ := exists_segments written hpath hlast
  rw [hfolder, ← walk_append _ _ (splitPath_ne_nil _), ← hsegments]
  simp only [ofParts, hplace, hcut, hwritten, takeWhile_append_slash, Option.map_map]
  rfl

/-- What is read of a base address: a host, perhaps a path, and no slash at the end. -/
theorem IsBase.exists_parts {base : String} {a : Address} (h : IsBase base a) :
    ∃ scheme rest, Text.cutAt ':' (cleaned base) = some (scheme, rest) ∧
      ofParts scheme (rest.dropWhile isSlash) = a ∧
      ((a.scheme = "http" ∨ a.scheme = "https") ∧ isAuthority a.authority.toList = true) ∧
      rest.dropWhile isSlash ≠ [] ∧ '#' ∉ rest.dropWhile isSlash ∧ '?' ∉ rest.dropWhile isSlash ∧
      ∀ c, (rest.dropWhile isSlash).getLast? = some c → isSlash c = false := by
  obtain ⟨c, hlast, haround, hslash⟩ := h.ends
  have hread := h.read
  cases hcut : Text.cutAt ':' (cleaned base) with
  | none =>
    rw [read?, hcut] at hread
    cases hread
  | some cut =>
    obtain ⟨scheme, rest⟩ := cut
    obtain ⟨hparts, hknown⟩ := (read?_of_cutAt hcut a).mp hread
    have hsuffix : rest.dropWhile isSlash <:+ cleaned base := by
      rw [Text.eq_of_cutAt hcut]
      exact (List.dropWhile_suffix isSlash).trans ⟨scheme ++ [':'], by simp⟩
    have hmem : ∀ d ∈ rest.dropWhile isSlash, d ∈ base.toList := fun d hd =>
      (cleaned_sublist base).subset (hsuffix.subset hd)
    have hfragment : '#' ∉ rest.dropWhile isSlash := fun hd => h.noFragment (hmem _ hd)
    have hquery : '?' ∉ rest.dropWhile isSlash := fun hd => h.noQuery (hmem _ hd)
    rw [Text.upTo_of_not_mem hfragment] at hparts
    have hne : rest.dropWhile isSlash ≠ [] := by
      intro hnil
      have hnone : a.authority = "" := by
        rw [← hparts, hnil]
        rfl
      rw [hnone] at hknown
      exact absurd hknown.2 (by decide)
    refine ⟨scheme, rest, rfl, hparts, hknown, hne, hfragment, hquery, ?_⟩
    intro d hd
    rw [getLast?_of_suffix hsuffix hne, getLast?_cleaned hlast haround] at hd
    cases hd
    exact hslash

/-- **A text behind a base address**: it adds to the segments of the folder, and has the query. -/
theorem read?_append {base : String} {a : Address} (h : IsBase base a) (behind : String) :
    read? (base ++ "/" ++ behind) = some { a with
      path := walk a.folder.reverse (segmentsBehind behind)
      query := queryBehind behind } := by
  obtain ⟨c, hlast, haround, -⟩ := h.ends
  obtain ⟨scheme, rest, hcut, hparts, hknown, hne, hfragment, hquery, hend⟩ := h.exists_parts
  have hcut' := Text.cutAt_append_of_some hcut ('/' :: tidied behind.toList)
  rw [← cleaned_append hlast haround] at hcut'
  have hrest : (rest ++ '/' :: tidied behind.toList).dropWhile isSlash =
      rest.dropWhile isSlash ++ '/' :: tidied behind.toList := by
    rw [List.dropWhile_append, if_neg (by simp [hne])]
  have hwritten : Text.upTo '#' (rest.dropWhile isSlash ++ '/' :: tidied behind.toList) =
      rest.dropWhile isSlash ++ '/' :: Text.upTo '#' (tidied behind.toList) := by
    rw [Text.upTo_append_of_not_mem hfragment]
    rfl
  refine (read?_of_cutAt hcut' _).mpr ⟨?_, hknown⟩
  rw [hrest, hwritten, ofParts_append hquery hend, hparts]
  rfl

end Address

end RoomBridge
