import StrategyDeploy.Expression.Basic
import Mathlib.Data.List.TakeDrop

/-! Sections of an expression body, read line by line. -/
namespace StrategyDeploy.Expression

open StrategyDeploy.Text

/-- A header line: `#` followed by a name character. -/
def isHeaderLine : List Char → Bool
  | '#' :: c :: _ => isWordChar c
  | _ => false

/-- The name a header line gives its section: the text after `#` up to the first blank. -/
def headerName (line : List Char) : List Char :=
  (line.drop 1).takeWhile (!isBlank ·)

/-- The text of a header line after its name, trimmed. -/
def headerRest (line : List Char) : List Char :=
  trimChars ((line.drop 1).dropWhile (!isBlank ·))

/-- What a section holds, from the trimmed rest of its header and its plain lines: code when the
header has nothing after its name, an elided binding when that text starts with `!`, and a
literal binding otherwise. -/
def sectionBody (rest : List Char) (body : List (List Char)) : SectionBody :=
  if rest = [] then .code (String.ofList (trimChars (List.intercalate ['\n'] body)))
  else if rest.head? = some '!' then .elided (String.ofList (trimChars rest.tail))
  else .literal (String.ofList rest)

/-- The section a header line and the plain lines after it make. -/
def headerSection (line : List Char) (body : List (List Char)) : Section :=
  ⟨String.ofList (headerName line), sectionBody (headerRest line) body⟩

/-- Lines read as plain lines before the first header, then each header line with the plain
lines that follow it. -/
structure Outline (ls preamble : List (List Char)) (groups : List (List Char × List (List Char))) :
    Prop where
  split : ls = preamble ++ (groups.map fun g => g.1 :: g.2).flatten
  preamble_plain : ∀ l ∈ preamble, isHeaderLine l = false
  headers : ∀ g ∈ groups, isHeaderLine g.1 = true
  bodies_plain : ∀ g ∈ groups, ∀ l ∈ g.2, isHeaderLine l = false

theorem trimChars_blank_cons {b : Char} (hb : isBlank b = true) (cs : List Char) :
    trimChars (b :: cs) = trimChars cs := by
  simp [trimChars, hb]

theorem parseHeader_of_plain {line : List Char} (h : isHeaderLine line = false) :
    parseHeader line = none := by
  unfold parseHeader
  split
  · simp only [isHeaderLine] at h
    simp [h]
  · rfl

theorem parseHeader_of_header {line : List Char} (h : isHeaderLine line = true) :
    parseHeader line =
      some ⟨headerName line, if headerRest line = [] then none else some (headerRest line)⟩ := by
  unfold isHeaderLine at h
  split at h
  case h_2 => cases h
  case h_1 c rest =>
    simp only [parseHeader, h, if_true, List.span_eq_takeWhile_dropWhile, headerName, headerRest,
      List.drop_one, List.tail_cons]
    cases after : (c :: rest).dropWhile (!isBlank ·) with
    | nil => simp [trimChars]
    | cons b tail =>
      have blank : isBlank b = true := by
        have stop := List.head_dropWhile_not (fun d => !isBlank d) (l := c :: rest)
          (by simp [after])
        simpa [after] using stop
      simp [trimChars_blank_cons blank, List.isEmpty_iff]

theorem Header.close_eq {hd : Header} (h : hd.inline ≠ some []) (body : List (List Char)) :
    hd.close body = ⟨String.ofList hd.name, sectionBody (hd.inline.getD []) body⟩ := by
  obtain ⟨name, inline⟩ := hd
  simp only [Header.close, sectionBody]
  cases inline with
  | none => simp
  | some value =>
    match value, h with
    | '!' :: message, _ => simp
    | c :: value, _ =>
      by_cases bang : c = '!'
      · subst bang
        simp
      · simp [bang]

theorem close_parseHeader {line : List Char} (h : isHeaderLine line = true) :
    ∃ hd, parseHeader line = some hd ∧ ∀ body, hd.close body = headerSection line body := by
  refine ⟨_, parseHeader_of_header h, fun body => ?_⟩
  rw [Header.close_eq (by split <;> simp_all)]
  by_cases empty : headerRest line = [] <;> simp [empty, headerSection]

section Reading

variable {ls : List (List Char)}

theorem sectionsFrom_plain_none (h : ∀ l ∈ ls, isHeaderLine l = false) (rest : List (List Char)) :
    sectionsFrom none (ls ++ rest) = sectionsFrom none rest := by
  induction ls with
  | nil => rfl
  | cons l ls ih =>
    rw [List.forall_mem_cons] at h
    simp only [List.cons_append, sectionsFrom, parseHeader_of_plain h.1]
    exact ih h.2

theorem sectionsFrom_plain_some (h : ∀ l ∈ ls, isHeaderLine l = false) (hd : Header)
    (acc rest : List (List Char)) :
    sectionsFrom (some (hd, acc)) (ls ++ rest) = sectionsFrom (some (hd, ls.reverse ++ acc)) rest := by
  induction ls generalizing acc with
  | nil => rfl
  | cons l ls ih =>
    rw [List.forall_mem_cons] at h
    simp only [List.cons_append, sectionsFrom, parseHeader_of_plain h.1, ih h.2, List.reverse_cons,
      List.append_assoc, List.cons_append, List.nil_append]

theorem sectionsFrom_groups {groups : List (List Char × List (List Char))}
    (headers : ∀ g ∈ groups, isHeaderLine g.1 = true)
    (plain : ∀ g ∈ groups, ∀ l ∈ g.2, isHeaderLine l = false) (hd : Header)
    (acc : List (List Char)) :
    sectionsFrom (some (hd, acc)) (groups.map fun g => g.1 :: g.2).flatten =
      hd.close acc.reverse :: groups.map fun g => headerSection g.1 g.2 := by
  induction groups generalizing hd acc with
  | nil => rfl
  | cons g groups ih =>
    obtain ⟨line, body⟩ := g
    obtain ⟨next, parsed, closes⟩ := close_parseHeader (headers _ List.mem_cons_self)
    have rest := ih (fun g hg => headers g (List.mem_cons_of_mem _ hg))
      (fun g hg => plain g (List.mem_cons_of_mem _ hg))
    simp only [List.map_cons, List.flatten_cons, List.cons_append, sectionsFrom, parsed]
    rw [sectionsFrom_plain_some (plain _ List.mem_cons_self), List.append_nil, rest,
      List.reverse_reverse, closes]

theorem sectionsFrom_outline {pre : List (List Char)} {groups : List (List Char × List (List Char))}
    (h : Outline ls pre groups) :
    sectionsFrom none ls = groups.map fun g => headerSection g.1 g.2 := by
  rw [h.split, sectionsFrom_plain_none h.preamble_plain]
  cases groups with
  | nil => rfl
  | cons g groups =>
    obtain ⟨line, body⟩ := g
    obtain ⟨first, parsed, closes⟩ := close_parseHeader (h.headers _ List.mem_cons_self)
    simp only [List.map_cons, List.flatten_cons, List.cons_append, sectionsFrom, parsed]
    rw [sectionsFrom_plain_some (h.bodies_plain _ List.mem_cons_self), List.append_nil,
      sectionsFrom_groups (fun g hg => h.headers g (List.mem_cons_of_mem _ hg))
        (fun g hg => h.bodies_plain g (List.mem_cons_of_mem _ hg)),
      List.reverse_reverse, closes]

theorem exists_outline (ls : List (List Char)) : ∃ pre groups, Outline ls pre groups := by
  induction ls with
  | nil => exact ⟨[], [], ⟨rfl, by simp, by simp, by simp⟩⟩
  | cons l ls ih =>
    obtain ⟨pre, groups, h⟩ := ih
    cases header : isHeaderLine l with
    | false =>
      refine ⟨l :: pre, groups, ⟨by simp [h.split], ?_, h.headers, h.bodies_plain⟩⟩
      exact List.forall_mem_cons.mpr ⟨header, h.preamble_plain⟩
    | true =>
      refine ⟨[], (l, pre) :: groups, ⟨by simp [h.split], by simp, ?_, ?_⟩⟩
      · exact List.forall_mem_cons.mpr ⟨header, h.headers⟩
      · exact List.forall_mem_cons.mpr ⟨h.preamble_plain, h.bodies_plain⟩

end Reading

theorem parse_sections_iff (body : String) (sections : List Section) :
    (parse body).sections = sections ↔ ∃ pre groups, Outline (lines body.toList) pre groups ∧
      sections = groups.map fun g => headerSection g.1 g.2 := by
  constructor
  · rintro rfl
    obtain ⟨pre, groups, h⟩ := exists_outline (lines body.toList)
    exact ⟨pre, groups, h, sectionsFrom_outline h⟩
  · rintro ⟨pre, groups, h, rfl⟩
    exact sectionsFrom_outline h

end StrategyDeploy.Expression
