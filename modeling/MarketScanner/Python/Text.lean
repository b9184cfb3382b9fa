import Mathlib.Data.List.Infix
import Mathlib.Tactic.Common

/-! Python's notion of blank text, and the pieces that a text is taken apart into. -/
namespace MarketScanner.Python

/-- `c.isspace()`. -/
def isSpace (c : Char) : Bool :=
  let n := c.toNat
  (9 ≤ n && n ≤ 13) || (28 ≤ n && n ≤ 32) || n == 133 || n == 160 || n == 5760 ||
    (8192 ≤ n && n ≤ 8202) || n == 8232 || n == 8233 || n == 8239 || n == 8287 || n == 12288

/-- `s.strip()`. -/
def strip (s : String) : String :=
  String.ofList ((s.toList.dropWhile isSpace).reverse.dropWhile isSpace).reverse

example : strip " NSE\t" = "NSE" := by decide

/-- `s.startswith(start)`. -/
def startswith (start s : String) : Bool := start.toList.isPrefixOf s.toList

/-- `keyword in text` -/
def occurs (text keyword : String) : Bool := decide (keyword.toList <:+: text.toList)

/-- `s.count(c)` for one character. -/
def count (c : Char) (s : String) : ℕ := s.toList.count c

/-- The pieces of a text between the separators met from the left. The first `skip` characters are the
rest of a separator. -/
def splitFrom (sep : List Char) : ℕ → List Char → List (List Char)
  | _, [] => [[]]
  | skip+1, _::rest => splitFrom sep skip rest
  | 0, c::rest =>
    if sep.isPrefixOf (c::rest) then []::splitFrom sep (sep.length-1) rest
    else (splitFrom sep 0 rest).modifyHead (c::·)

/-- `s.split(sep)`. -/
def split (sep s : String) : List String := (splitFrom sep.toList 0 s.toList).map String.ofList

example : split "---" "a----b" = ["a","-b"] := by decide

def splitOnceFrom (sep : List Char) : List Char → List (List Char)
  | [] => [[]]
  | c::rest =>
    if sep.isPrefixOf (c::rest) then [[],(c::rest).drop sep.length]
    else (splitOnceFrom sep rest).modifyHead (c::·)

/-- `s.split(sep, 1)`. -/
def splitOnce (sep s : String) : List String := (splitOnceFrom sep.toList s.toList).map String.ofList

/-- The characters at which `splitlines` ends a line. -/
def isLineBreak (c : Char) : Bool := [10,11,12,13,28,29,30,133,8232,8233].contains c.toNat

def splitlinesFrom : List Char → List (List Char)
  | [] => []
  | '\r' :: '\n' :: rest => []::splitlinesFrom rest
  | c::rest =>
    if isLineBreak c then []::splitlinesFrom rest
    else
      match splitlinesFrom rest with
      | [] => [[c]]
      | line::lines => (c::line)::lines

/-- `s.splitlines()`. -/
def splitlines (s : String) : List String := (splitlinesFrom s.toList).map String.ofList

example : splitlines "a\r\n\nb\n" = ["a","","b"] := by decide

theorem startswith_append (start s : String) (h : startswith start s = true) :
    ∃ rest, s.toList = start.toList ++ rest := by
  obtain ⟨rest,hrest⟩ := List.isPrefixOf_iff_prefix.mp h
  exact ⟨rest,hrest.symm⟩

/-- Splitting at one character leaves one piece more than it occurs. -/
theorem length_splitFrom_single (c : Char) (cs : List Char) :
    (splitFrom [c] 0 cs).length = cs.count c+1 := by
  induction cs with
  | nil => rfl
  | cons d rest ih =>
    rw [splitFrom]
    by_cases hd : c = d
    · subst hd
      rw [if_pos (by simp), List.length_cons, List.length_singleton, Nat.sub_self, ih,
        List.count_cons_self]
    · rw [if_neg (by simpa using hd), List.length_modifyHead, ih,
        List.count_cons_of_ne (Ne.symm hd)]

theorem length_split_single (sep : Char) (s : String) :
    (split (String.singleton sep) s).length = count sep s+1 := by
  rw [split, List.length_map, String.toList_singleton, length_splitFrom_single, count]

theorem splitFrom_single_append {c : Char} {cs rest : List Char} (h : c ∉ cs) :
    splitFrom [c] 0 (cs ++ c::rest) = cs::splitFrom [c] 0 rest := by
  induction cs with
  | nil => simp [splitFrom]
  | cons d ds ih =>
    obtain ⟨hd,hds⟩ := not_or.mp (mt List.mem_cons.mpr h)
    rw [List.cons_append, splitFrom, if_neg (by simpa using hd), ih hds, List.modifyHead_cons]

theorem splitFrom_single_of_notMem {c : Char} {cs : List Char} (h : c ∉ cs) : splitFrom [c] 0 cs = [cs] := by
  induction cs with
  | nil => rfl
  | cons d ds ih =>
    obtain ⟨hd,hds⟩ := not_or.mp (mt List.mem_cons.mpr h)
    rw [splitFrom, if_neg (by simpa using hd), ih hds, List.modifyHead_cons]

/-- Pieces without the separator are what splitting their join gives back. -/
theorem split_intercalate {sep : Char} {lines : List String} (hne : lines ≠ [])
    (h : ∀ line ∈ lines, sep ∉ line.toList) :
    split (String.singleton sep) (String.intercalate (String.singleton sep) lines) = lines := by
  induction lines with
  | nil => exact absurd rfl hne
  | cons line rest ih =>
    have hline := h line List.mem_cons_self
    have hrest := fun l hl => h l (List.mem_cons_of_mem line hl)
    rw [split, String.toList_singleton] at *
    cases rest with
    | nil =>
      rw [String.intercalate_singleton, splitFrom_single_of_notMem hline, List.map_singleton,
        String.ofList_toList]
    | cons next rest =>
      rw [String.intercalate_cons_cons, String.toList_append, String.toList_append, String.toList_singleton,
        List.append_assoc, List.singleton_append, splitFrom_single_append hline, List.map_cons,
        String.ofList_toList, ih (List.cons_ne_nil next rest) hrest]

/-- Splitting once at a character cuts the text at its first occurrence. -/
theorem splitOnceFrom_single {c : Char} {before after : List Char} (h : c ∉ before) :
    splitOnceFrom [c] (before ++ c::after) = [before,after] := by
  induction before with
  | nil => simp [splitOnceFrom]
  | cons d rest ih =>
    obtain ⟨hd,hrest⟩ := not_or.mp (mt List.mem_cons.mpr h)
    rw [List.cons_append, splitOnceFrom, if_neg (by simpa using hd), ih hrest, List.modifyHead_cons]

/-- A text in which a character occurs has a part before its first occurrence and a part after it. -/
theorem splitOnce_single {sep : Char} {s : String} (h : sep ∈ s.toList) :
    ∃ before after : String, s.toList = before.toList ++ sep::after.toList ∧ sep ∉ before.toList ∧
      splitOnce (String.singleton sep) s = [before,after] := by
  obtain ⟨before,after,hs,hbefore⟩ := List.eq_append_cons_of_mem h
  refine ⟨String.ofList before,String.ofList after,?_,?_,?_⟩
  · rw [String.toList_ofList, String.toList_ofList, hs]
  · rwa [String.toList_ofList]
  · rw [splitOnce, hs, String.toList_singleton, splitOnceFrom_single hbefore]
    rfl

end MarketScanner.Python
