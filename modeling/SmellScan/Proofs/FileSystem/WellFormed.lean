import Mathlib.Data.List.Basic
import SmellScan.FileSystem
import SmellScan.Proofs.Path.Spelling

/-!
# Well-formed file trees

A file system never keeps two entries of one name in a directory, and a name is one component of a
path that the system takes. What stands in such a tree is such a tree again (`WellFormed.of_at?`),
and a path that leads somewhere leads to what stands there (`exists_place_of_find`). A path with the
null character leads nowhere, and no other is refused for it (`readText_eq_nullCharacter_iff`).
-/

namespace SmellScan

namespace FileTree

/-- A name as a file system keeps it: a component of a path, without the character that ends a text
for the system. -/
structure IsEntryName (name : String) : Prop where
  component : Path.IsComponent name
  no_null : '\x00' ∉ name.toList

instance (name : String) : Decidable (IsEntryName name) :=
  decidable_of_iff ((name ≠ "" ∧ name ≠ "." ∧ '/' ∉ name.toList) ∧ '\x00' ∉ name.toList)
    ⟨fun ⟨⟨hempty, hdot, hslash⟩, hnull⟩ => ⟨⟨hempty, hdot, hslash⟩, hnull⟩,
      fun ⟨⟨hempty, hdot, hslash⟩, hnull⟩ => ⟨⟨hempty, hdot, hslash⟩, hnull⟩⟩

/-- A tree as a file system keeps it: the names in a directory are different. -/
inductive WellFormed : FileTree → Prop where
  | file (bytes : List UInt8) : WellFormed (.file bytes)
  | link (target : String) : WellFormed (.link target)
  | dir {entries : List (String × FileTree)} (names : (entries.map Prod.fst).Nodup)
      (named : ∀ e ∈ entries, IsEntryName e.1) (below : ∀ e ∈ entries, WellFormed e.2) :
      WellFormed (.dir entries)
  | locked {node : FileTree} (inside : WellFormed node) : WellFormed (.locked node)

variable {t node : FileTree} {name : String} {place : List String}

/-- An entry of a well-formed tree has a name and is well-formed. -/
theorem WellFormed.of_entry (h : t.WellFormed) (hnode : t.entry? name = some node) :
    IsEntryName name ∧ node.WellFormed := by
  induction h with
  | file bytes => cases hnode
  | link target => cases hnode
  | locked inside ih => exact ih hnode
  | @dir entries names named below =>
    obtain ⟨before, after, heq, -⟩ := List.lookup_eq_some_iff.1 hnode
    have he : (name, node) ∈ entries := by simp [show entries = _ from heq]
    exact ⟨named _ he, below _ he⟩

/-- What stands in a well-formed tree is well-formed, and only names lead to it. -/
theorem WellFormed.of_at? (h : t.WellFormed) (hnode : t.at? place = some node) :
    (∀ name ∈ place, IsEntryName name) ∧ node.WellFormed := by
  induction place generalizing t with
  | nil =>
    cases hnode
    exact ⟨by simp, h⟩
  | cons name place ih =>
    obtain ⟨child, hchild, hbelow⟩ := Option.bind_eq_some_iff.1 hnode
    obtain ⟨hname, hwell⟩ := h.of_entry hchild
    obtain ⟨hnames, hwell'⟩ := ih hwell hbelow
    exact ⟨List.forall_mem_cons.2 ⟨hname, hnames⟩, hwell'⟩

end FileTree

namespace FileSystem

/-- Where something is found, it stands. -/
theorem at?_of_follow {top node : FileTree} {making : Bool} {links : ℕ}
    {start todo place : List String}
    (h : follow top making links start todo = .ok (.found place node)) :
    top.at? place = some node := by
  fun_induction follow top making links start todo
  case case1 hnode =>
    cases h
    exact hnode
  case case3 ih | case4 ih | case10 ih | case11 ih => exact ih h
  -- all other ways end at a fault or at a free name
  all_goals cases h

theorem exists_place_of_find {fs : FileSystem} {p : Path} {node : FileTree}
    (h : fs.find p = .ok node) :
    ∃ place, fs.locate false p = .ok (.found place node) ∧ fs.top.at? place = some node := by
  unfold find at h
  split at h
  · rename_i place found hlocate
    cases h
    refine ⟨place, hlocate, ?_⟩
    unfold locate at hlocate
    split at hlocate
    · cases hlocate
    · exact at?_of_follow hlocate
  · cases h
  · cases h

section Null

variable {fs : FileSystem} {p : Path}

/-- Following a path never ends at the null character. -/
theorem follow_ne_nullCharacter {top : FileTree} {making : Bool} {links : ℕ}
    {place todo : List String} :
    follow top making links place todo ≠ .error .nullCharacter := by
  fun_induction follow top making links place todo <;> simp_all
  all_goals split <;> simp

theorem checkPath_eq_nullCharacter_iff :
    checkPath p = .error .nullCharacter ↔ '\x00' ∈ p.toString.toList := by
  unfold checkPath checkText
  split_ifs <;> simp_all

theorem readText_eq_nullCharacter_iff :
    (∃ e, fs.readText p = .error e ∧ e.fault = .nullCharacter) ↔
      '\x00' ∈ p.toString.toList := by
  have hfind : fs.find p = .error .nullCharacter ↔ '\x00' ∈ p.toString.toList := by
    rw [← checkPath_eq_nullCharacter_iff, find, locate]
    cases hcheck : checkPath p with
    | error fault => simp
    | ok _ =>
      have hfollow := @follow_ne_nullCharacter fs.top false maxLinks (fs.start p) p.parts
      cases h : follow fs.top false maxLinks (fs.start p) p.parts with
      | error fault => simpa [h] using hfollow
      | ok spot => cases spot <;> simp
  rw [← hfind, readText, readBytes]
  split <;> simp_all [Except.map]

end Null

end FileSystem

end SmellScan
