import StrategyDeploy.Document.Split

/-! Where a document splits. -/
namespace StrategyDeploy.Text

/-- A segment that another follows: it holds one line feed, at its end. -/
def IsClosedLine (seg : List Char) : Prop := ∃ l, '\n' ∉ l ∧ seg = l ++ ['\n']

theorem segmentsFrom_line {l : List Char} (hl : '\n' ∉ l) (acc rest : List Char) :
    segmentsFrom acc (l ++ '\n' :: rest) = (acc.reverse ++ l ++ ['\n']) :: segments rest := by
  induction l generalizing acc with
  | nil => simp [segmentsFrom, segments]
  | cons c l ih =>
    have hc : c ≠ '\n' := fun e => hl (e ▸ List.mem_cons_self)
    have hl' : '\n' ∉ l := fun m => hl (List.mem_cons_of_mem _ m)
    simp [segmentsFrom, hc, ih hl']

theorem segmentsFrom_append {xs : List Char} (hxs : xs.getLast? = some '\n') (acc ys : List Char) :
    segmentsFrom acc (xs ++ ys) = segmentsFrom acc xs ++ segments ys := by
  induction xs generalizing acc with
  | nil => simp at hxs
  | cons c xs ih =>
    cases xs with
    | nil =>
      obtain rfl : c = '\n' := by simpa using hxs
      simp [segmentsFrom, segments]
    | cons d xs =>
      rw [List.getLast?_cons_cons] at hxs
      rw [List.cons_append, segmentsFrom, segmentsFrom]
      split
      · rw [ih hxs, List.cons_append]
      · rw [ih hxs]

theorem segments_append {xs : List Char} (hxs : xs = [] ∨ xs.getLast? = some '\n') (ys : List Char) :
    segments (xs ++ ys) = segments xs ++ segments ys := by
  rcases hxs with rfl | hxs
  · rfl
  · exact segmentsFrom_append hxs [] ys

theorem segmentsFrom_closed {acc cs : List Char} (hacc : '\n' ∉ acc)
    {pre post : List (List Char)} {seg : List Char} (h : segmentsFrom acc cs = pre ++ seg :: post) :
    ∀ s ∈ pre, IsClosedLine s := by
  -- the segment being read, `acc`, holds no line feed until one closes it
  induction cs generalizing acc pre with
  | nil =>
    cases pre with
    | nil => simp
    | cons p pre =>
      unfold segmentsFrom at h
      split at h <;> simp at h
  | cons c rest ih =>
    by_cases hc : c = '\n'
    · subst hc
      cases pre with
      | nil => simp
      | cons p pre =>
        simp only [segmentsFrom, if_true, List.cons_append, List.cons.injEq] at h
        obtain ⟨rfl, h⟩ := h
        rw [List.forall_mem_cons]
        exact ⟨⟨acc.reverse, by simpa using hacc, by simp⟩, ih List.not_mem_nil h⟩
    · rw [segmentsFrom, if_neg hc] at h
      exact ih (by simp [hacc, Ne.symm hc]) h

theorem segments_flatten_closed {pre : List (List Char)} (h : ∀ s ∈ pre, IsClosedLine s) :
    segments pre.flatten = pre := by
  induction pre with
  | nil => rfl
  | cons s pre ih =>
    rw [List.forall_mem_cons] at h
    obtain ⟨⟨l, hl, rfl⟩, hpre⟩ := h
    rw [List.flatten_cons, List.append_assoc, List.singleton_append, segments, segmentsFrom_line hl,
      ih hpre]
    rfl

theorem trimChars_append_blank {c : Char} (hc : isBlank c = true) (cs : List Char) :
    trimChars (cs ++ [c]) = trimChars cs := by
  simp only [trimChars, List.dropWhile_append]
  split
  next allBlank =>
    simp [List.isEmpty_iff.mp allBlank, List.dropWhile, hc]
  next => simp [hc]

/-- The lines of a text, each keeping its line feed; only the last may lack one. -/
def lineSegments (s : String) : List String := (segments s.toList).map String.ofList

theorem join_map_ofList (ls : List (List Char)) :
    String.join (ls.map String.ofList) = String.ofList ls.flatten := by
  apply String.toList_injective
  simp [String.toList_join, String.toList_ofList, List.flatMap_map]

@[simp] theorem join_lineSegments (s : String) : String.join (lineSegments s) = s := by
  rw [lineSegments, join_map_ofList, segments_flatten, String.ofList_toList]

theorem lineSegments_eq_append_cons {s l : String} {pre post : List String}
    (h : lineSegments s = pre ++ l :: post) :
    ∃ pre' seg post', segments s.toList = pre' ++ seg :: post' ∧ pre = pre'.map String.ofList ∧
      l = String.ofList seg ∧ post = post'.map String.ofList := by
  obtain ⟨pre', rest', hsegs, rfl, hrest⟩ := List.map_eq_append_iff.mp h
  obtain ⟨seg, post', rfl, rfl, rfl⟩ := List.map_eq_cons_iff.mp hrest
  exact ⟨pre', seg, post', hsegs, rfl, rfl, rfl⟩

theorem lineSegments_join_front {s l : String} {pre post : List String}
    (h : lineSegments s = pre ++ l :: post) : lineSegments (String.join pre) = pre := by
  obtain ⟨pre', _, _, hsegs, rfl, -, -⟩ := lineSegments_eq_append_cons h
  rw [join_map_ofList, lineSegments, String.toList_ofList,
    segments_flatten_closed (segmentsFrom_closed List.not_mem_nil hsegs)]

end StrategyDeploy.Text

namespace StrategyDeploy.Document

open StrategyDeploy.Text

theorem isSeparator_iff_trim (seg : List Char) :
    IsSeparator seg = true ↔ trim (String.ofList seg) = "---" := by
  rw [IsSeparator, beq_iff_eq, trim, String.toList_ofList, ← String.toList_inj,
    String.toList_ofList]
  rfl

theorem isSeparator_eq_false_iff (seg : List Char) :
    IsSeparator seg = false ↔ trim (String.ofList seg) ≠ "---" := by
  rw [ne_eq, ← isSeparator_iff_trim, Bool.not_eq_true]

theorem isSeparator_false_of_lines {segs : List (List Char)}
    (h : ∀ l ∈ segs.map String.ofList, trim l ≠ "---") : ∀ l ∈ segs, IsSeparator l = false :=
  fun l hl => (isSeparator_eq_false_iff l).mpr (h _ (List.mem_map_of_mem hl))

theorem splitSegments_of_first {pre post : List (List Char)} {sep : List Char}
    (hpre : ∀ l ∈ pre, IsSeparator l = false) (hsep : IsSeparator sep = true) (acc : List Char) :
    splitSegments acc (pre ++ sep :: post) = some (acc ++ pre.flatten, post.flatten) := by
  induction pre generalizing acc with
  | nil => simp [splitSegments, hsep]
  | cons l pre ih =>
    rw [List.forall_mem_cons] at hpre
    simp [splitSegments, hpre.1, ih hpre.2]

theorem splitSegments_eq_none {segs : List (List Char)} (h : ∀ l ∈ segs, IsSeparator l = false)
    (acc : List Char) : splitSegments acc segs = none := by
  induction segs generalizing acc with
  | nil => rfl
  | cons l segs ih =>
    rw [List.forall_mem_cons] at h
    simp [splitSegments, h.1, ih h.2]

theorem splitFrontMatter_of_first_separator {source sep : String} {pre post : List String}
    (h : lineSegments source = pre ++ sep :: post) (hsep : trim sep = "---")
    (hpre : ∀ l ∈ pre, trim l ≠ "---") :
    splitFrontMatter source = (String.join pre, String.join post) := by
  obtain ⟨pre', seg, post', hsegs, rfl, rfl, rfl⟩ := lineSegments_eq_append_cons h
  have hseg : IsSeparator seg = true := (isSeparator_iff_trim seg).mpr hsep
  rw [splitFrontMatter, hsegs, splitSegments_of_first (isSeparator_false_of_lines hpre) hseg]
  simp [join_map_ofList]

theorem splitFrontMatter_of_no_separator {source : String}
    (h : ∀ l ∈ lineSegments source, trim l ≠ "---") : splitFrontMatter source = (source, "") := by
  rw [splitFrontMatter, splitSegments_eq_none (isSeparator_false_of_lines h)]

theorem splitFrontMatter_around_first_separator {source : String}
    (h : ∃ l ∈ lineSegments source, trim l = "---") :
    ∃ pre sep post, lineSegments source = pre ++ sep :: post ∧ trim sep = "---" ∧
      (∀ l ∈ pre, trim l ≠ "---") ∧
      (splitFrontMatter source).1 ++ sep ++ (splitFrontMatter source).2 = source ∧
      ∀ l ∈ lineSegments (splitFrontMatter source).1, trim l ≠ "---" := by
  obtain ⟨sep, hfind⟩ : ∃ sep, (lineSegments source).find? (trim · == "---") = some sep := by
    apply Option.isSome_iff_exists.mp
    rw [List.find?_isSome]
    simpa using h
  obtain ⟨hsep, pre, post, hsplit, hpre⟩ := List.find?_eq_some_iff_append.mp hfind
  have hsep : trim sep = "---" := by simpa using hsep
  have hpre : ∀ l ∈ pre, trim l ≠ "---" := fun l hl => by simpa using hpre l hl
  rw [splitFrontMatter_of_first_separator hsplit hsep hpre]
  refine ⟨pre, sep, post, hsplit, hsep, hpre, ?_, ?_⟩
  · calc String.join pre ++ sep ++ String.join post
        = String.join (pre ++ sep :: post) := by
          rw [String.join_append, String.join_cons, String.append_assoc]
      _ = source := by rw [← hsplit, join_lineSegments]
  · rwa [lineSegments_join_front hsplit]

theorem splitFrontMatter_append_separator {front sep body : String}
    (hfront : front = "" ∨ ∃ g, front = g ++ "\n")
    (hplain : ∀ l ∈ lineSegments front, trim l ≠ "---") (hsep : trim sep = "---")
    (hline : '\n' ∉ sep.toList) :
    splitFrontMatter (front ++ sep ++ "\n" ++ body) = (front, body) := by
  have hnl : "\n".toList = ['\n'] := rfl
  have hclosed : front.toList = [] ∨ front.toList.getLast? = some '\n' := by
    rcases hfront with rfl | ⟨g, rfl⟩
    · simp
    · simp [String.toList_append]
  have hlines : lineSegments (front ++ sep ++ "\n" ++ body) =
      lineSegments front ++ (sep ++ "\n") :: lineSegments body := by
    have hsegs : segments (sep.toList ++ '\n' :: body.toList) =
        (sep.toList ++ ['\n']) :: segments body.toList := segmentsFrom_line hline [] body.toList
    simp only [lineSegments, String.toList_append, hnl, List.append_assoc, List.singleton_append]
    rw [segments_append hclosed, hsegs, List.map_append, List.map_cons, String.ofList_append,
      String.ofList_toList]
  have hsep' : trim (sep ++ "\n") = "---" := by
    rw [trim, String.toList_append, hnl, trimChars_append_blank (by decide)]
    exact hsep
  rw [splitFrontMatter_of_first_separator hlines hsep' hplain, join_lineSegments, join_lineSegments]

/-- Where a document splits: at its first separator line when it has one, so that front matter,
separator and body concatenate back to it and the front matter holds no separator line; into
itself and an empty body when it has none. In particular front matter that ends in a line feed
and holds no separator, a separator line and any body split back into that front matter and
body. -/
theorem splitFrontMatter_cuts_at_first_separator :
    (∀ source : String, (∃ l ∈ lineSegments source, trim l = "---") →
      ∃ pre sep post, lineSegments source = pre ++ sep :: post ∧ trim sep = "---" ∧
        (∀ l ∈ pre, trim l ≠ "---") ∧
        (splitFrontMatter source).1 ++ sep ++ (splitFrontMatter source).2 = source ∧
        ∀ l ∈ lineSegments (splitFrontMatter source).1, trim l ≠ "---") ∧
    (∀ source : String, (∀ l ∈ lineSegments source, trim l ≠ "---") →
      splitFrontMatter source = (source, "")) ∧
    (∀ front sep body : String, (front = "" ∨ ∃ g, front = g ++ "\n") →
      (∀ l ∈ lineSegments front, trim l ≠ "---") → trim sep = "---" → '\n' ∉ sep.toList →
      splitFrontMatter (front ++ sep ++ "\n" ++ body) = (front, body)) :=
  ⟨fun _ => splitFrontMatter_around_first_separator, fun _ => splitFrontMatter_of_no_separator,
    fun _ _ _ => splitFrontMatter_append_separator⟩

/-- A document with front matter and a body, one without a separator, and one whose separator
carries blanks and a carriage return and whose body holds a second separator. -/
theorem sample_documents_split :
    splitFrontMatter "a = 1\n---\n#calculate-io\n_ _: 0 0;\n" =
        ("a = 1\n", "#calculate-io\n_ _: 0 0;\n") ∧
      splitFrontMatter "a = 1\n" = ("a = 1\n", "") ∧
      splitFrontMatter "a = 1\n \t---\r\nb = 2\n---\n" = ("a = 1\n", "b = 2\n---\n") :=
  ⟨splitFrontMatter_cuts_at_first_separator.2.2 "a = 1\n" "---" "#calculate-io\n_ _: 0 0;\n"
      (.inr ⟨"a = 1", rfl⟩) (by decide) (by decide) (by decide),
    splitFrontMatter_cuts_at_first_separator.2.1 "a = 1\n" (by decide),
    splitFrontMatter_cuts_at_first_separator.2.2 "a = 1\n" " \t---\r" "b = 2\n---\n"
      (.inr ⟨"a = 1", rfl⟩) (by decide) (by decide) (by decide)⟩

end StrategyDeploy.Document
