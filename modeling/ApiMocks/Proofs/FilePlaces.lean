import ApiMocks.Cli.Plan
import ApiMocks.Proofs.ReadingCosts
import Mathlib.Data.List.Infix

/-!
# Places and changes of a file tree

What a program makes is never in its way.  A tree grows: files get other contents,
and files and directories come where nothing was, but no directory and no link goes
or changes, and no link is made.  So a path that led to a place leads there still,
and where each change of a run went can be said of the tree that the run leaves
behind.

Following a path is a walk that may jump at links, so the place behind one more name
is settled by the place before it, unless a link stands there.  From that, a file in
a directory is at the place of the directory with the name behind it, but for links
and further names, and a directory that is made is one on the way of its path.

* `Becomes`, `Grows`: what can come of a node and of a tree;
* `Grows.walk`, `Grows.locate`: places stay;
* `walk_append`, `walk_append_of_eq_ok`: more names;
* `locate_childPath`: the place of a file in a directory;
* `write_eq_ok`, `makeDirectory_eq_ok`: what changes do.
-/

namespace ApiMocks

namespace FileTree

variable {t t' t'' : FileTree} {p q dir start : Place} {n : Node} {links : Nat}
  {names front rest : List String} {name path content : String}

/-! ## Growing trees -/

/-- What can come of what is at a place: a file can get another content, and a file or
a directory can come where nothing is. -/
inductive Becomes (fileRights directoryRights : Rights) : Option Node → Option Node → Prop
  | same (n : Option Node) : Becomes fileRights directoryRights n n
  | rewritten (c c' : Content) (r : Rights) :
      Becomes fileRights directoryRights (some (.file c r)) (some (.file c' r))
  | newFile (c : Content) : Becomes fileRights directoryRights none (some (.file c fileRights))
  | newDirectory : Becomes fileRights directoryRights none (some (.directory directoryRights))

/-- The tree after changes of a run. -/
structure Grows (t t' : FileTree) : Prop where
  workingDirectory : t'.workingDirectory = t.workingDirectory
  fileRights : t'.fileRights = t.fileRights
  directoryRights : t'.directoryRights = t.directoryRights
  nodes : ∀ p, Becomes t.fileRights t.directoryRights (t.get? p) (t'.get? p)

theorem Becomes.trans {f d : Rights} {m n k : Option Node} (h : Becomes f d m n)
    (h' : Becomes f d n k) : Becomes f d m k := by
  cases h with
  | same => exact h'
  | rewritten c c' r =>
      cases h' with
      | same => exact .rewritten c c' r
      | rewritten _ c'' _ => exact .rewritten c c'' r
  | newFile c =>
      cases h' with
      | same => exact .newFile c
      | rewritten _ c' _ => exact .newFile c'
  | newDirectory =>
      cases h' with
      | same => exact .newDirectory

namespace Grows

theorem refl (t : FileTree) : Grows t t := ⟨rfl, rfl, rfl, fun _ => .same _⟩

theorem trans (h : Grows t t') (h' : Grows t' t'') : Grows t t'' where
  workingDirectory := h'.workingDirectory.trans h.workingDirectory
  fileRights := h'.fileRights.trans h.fileRights
  directoryRights := h'.directoryRights.trans h.directoryRights
  nodes p := by
    have hnodes := h'.nodes p
    rw [h.fileRights, h.directoryRights] at hnodes
    exact (h.nodes p).trans hnodes

/-- A tree grows where one place gets what can come of it. -/
theorem set (hp : p ≠ []) (h : Becomes t.fileRights t.directoryRights (t.get? p) (some n)) :
    Grows t (t.set p n) where
  workingDirectory := rfl
  fileRights := rfl
  directoryRights := rfl
  nodes q := by
    by_cases hq : q = p
    · rw [hq, get?_set_self hp]
      exact h
    · rw [get?_set_of_ne hq]
      exact .same _

theorem directory {r : Rights} (h : Grows t t') (hp : t.get? p = some (.directory r)) :
    t'.get? p = some (.directory r) := by
  have hnode := h.nodes p
  rw [hp] at hnode
  generalize t'.get? p = after at hnode ⊢
  cases hnode
  rfl

theorem file {c : Content} {r : Rights} (h : Grows t t') (hp : t.get? p = some (.file c r)) :
    ∃ c', t'.get? p = some (.file c' r) := by
  have hnode := h.nodes p
  rw [hp] at hnode
  generalize t'.get? p = after at hnode ⊢
  cases hnode with
  | same => exact ⟨c, rfl⟩
  | rewritten _ c' => exact ⟨c', rfl⟩

/-- No link is made, and none goes. -/
theorem link_iff {target : String} (h : Grows t t') :
    t'.get? p = some (.link target) ↔ t.get? p = some (.link target) := by
  have hnode := h.nodes p
  generalize t.get? p = before at hnode ⊢
  generalize t'.get? p = after at hnode ⊢
  cases hnode <;> simp

theorem sameAs_iff {place : Place} (h : Grows t t') :
    t'.get? p = some (.sameAs place) ↔ t.get? p = some (.sameAs place) := by
  have hnode := h.nodes p
  generalize t.get? p = before at hnode ⊢
  generalize t'.get? p = after at hnode ⊢
  cases hnode <;> simp

end Grows

/-! ## Walks -/

/-- Only a directory can be entered. -/
theorem directory_of_enter (h : t.enter dir name = .ok p) :
    ∃ r, t.get? dir = some (.directory r) := by
  rw [enter] at h
  split at h
  · cases h
  · rename_i r hdir
    exact ⟨r, hdir⟩
  · cases h

theorem Grows.enter (hgrows : Grows t t') (h : t.enter dir name = .ok p) :
    t'.enter dir name = .ok p := by
  obtain ⟨r, hdir⟩ := directory_of_enter h
  rw [FileTree.enter, hdir] at h
  rw [FileTree.enter, hgrows.directory hdir]
  exact h

theorem advance_cons_eq_ok {reach : Reach} :
    t.advance start (name :: rest) = .ok reach ↔ ∃ next, t.enter start name = .ok next ∧
      ((∃ target, t.get? next = some (.link target) ∧ reach = .link start target rest) ∨
        (∀ target, t.get? next ≠ some (.link target)) ∧ t.advance next rest = .ok reach) := by
  rw [advance]
  refine except_bind_eq_ok.trans (exists_congr fun next => and_congr_right fun _ => ?_)
  split
  · rename_i target hlink
    simp [hlink, eq_comm]
  · rename_i hnode
    have hno : ∀ target, t.get? next ≠ some (.link target) := fun target hlink =>
      hnode target hlink
    simp [hno]

theorem Grows.advance (hgrows : Grows t t') {reach : Reach}
    (h : t.advance start names = .ok reach) : t'.advance start names = .ok reach := by
  induction names generalizing start with
  | nil => exact h
  | cons name rest ih =>
      obtain ⟨next, henter, hnext⟩ := advance_cons_eq_ok.mp h
      refine advance_cons_eq_ok.mpr ⟨next, hgrows.enter henter, ?_⟩
      rcases hnext with ⟨target, hlink, hreach⟩ | ⟨hno, hrest⟩
      · exact .inl ⟨target, hgrows.link_iff.mpr hlink, hreach⟩
      · exact .inr ⟨fun target hlink => hno target (hgrows.link_iff.mp hlink), ih hrest⟩

/-- Names are followed up to a link, or to the end. -/
theorem walk_eq_ok :
    t.walk links start names = .ok p ↔ t.advance start names = .ok (.place p) ∨
      ∃ dir target rest fewer route, links = fewer + 1 ∧
        t.advance start names = .ok (.link dir target rest) ∧
        Route.ofPath target = .ok route ∧
        t.walk fewer (startOf dir route) (route.steps ++ rest) = .ok p := by
  constructor
  · intro h
    cases links with
    | zero =>
        obtain ⟨reach, hreach, hend⟩ := except_bind_eq_ok.mp h
        cases reach with
        | place q =>
            cases hend
            exact .inl hreach
        | link => cases hend
    | succ fewer =>
        obtain ⟨reach, hreach, hend⟩ := except_bind_eq_ok.mp h
        cases reach with
        | place q =>
            cases hend
            exact .inl hreach
        | link dir target rest =>
            obtain ⟨route, hroute, hrest⟩ := except_bind_eq_ok.mp hend
            exact .inr ⟨dir, target, rest, fewer, route, rfl, hreach, hroute, hrest⟩
  · intro h
    rcases h with hend | ⟨dir, target, rest, fewer, route, rfl, hreach, hroute, hrest⟩
    · cases links with
      | zero => exact except_bind_eq_ok.mpr ⟨.place p, hend, rfl⟩
      | succ fewer => exact except_bind_eq_ok.mpr ⟨.place p, hend, rfl⟩
    · exact except_bind_eq_ok.mpr
        ⟨.link dir target rest, hreach, except_bind_eq_ok.mpr ⟨route, hroute, hrest⟩⟩

theorem Grows.walk (hgrows : Grows t t') (h : t.walk links start names = .ok p) :
    t'.walk links start names = .ok p := by
  induction links generalizing start names with
  | zero =>
      rcases walk_eq_ok.mp h with hend | ⟨_, _, _, _, _, hlinks, _⟩
      · exact walk_eq_ok.mpr (.inl (hgrows.advance hend))
      · cases hlinks
  | succ fewer ih =>
      rcases walk_eq_ok.mp h with hend |
        ⟨dir, target, rest, _, route, hlinks, hreach, hroute, hrest⟩
      · exact walk_eq_ok.mpr (.inl (hgrows.advance hend))
      · cases hlinks
        exact walk_eq_ok.mpr (.inr ⟨dir, target, rest, fewer, route, rfl, hgrows.advance hreach,
          hroute, ih hrest⟩)

/-- What is found at the end of a path is what its names lead to, or the file of which
this is one more name. -/
theorem locate_eq_ok :
    t.locate path = .ok p ↔ ∃ route place, Route.ofPath path = .ok route ∧
      t.walk linkLimit (startOf t.workingDirectory route) route.steps = .ok place ∧
      ((∀ other, t.get? place ≠ some (.sameAs other)) ∧ p = place ∨
        ∃ c r, t.get? place = some (.sameAs p) ∧ t.get? p = some (.file c r)) := by
  rw [locate]
  refine except_bind_eq_ok.trans (exists_congr fun route => ?_)
  rw [exists_and_left]
  refine and_congr_right fun _ => except_bind_eq_ok.trans (exists_congr fun place =>
    and_congr_right fun _ => ?_)
  split
  · rename_i other hsame
    split
    · rename_i c r hfile
      constructor
      · intro h
        cases h
        exact .inr ⟨c, r, hsame, hfile⟩
      · rintro (⟨hno, _⟩ | ⟨_, _, hsame', _⟩)
        · exact absurd hsame (hno other)
        · rw [hsame] at hsame'
          cases hsame'
          rfl
    · rename_i hno
      constructor
      · exact (nomatch ·)
      · rintro (⟨hno', _⟩ | ⟨c, r, hsame', hfile⟩)
        · exact absurd hsame (hno' other)
        · rw [hsame] at hsame'
          cases hsame'
          exact absurd hfile (hno c r)
  · rename_i hno
    constructor
    · intro h
      cases h
      exact .inl ⟨hno, rfl⟩
    · rintro (⟨_, rfl⟩ | ⟨_, _, hsame, _⟩)
      · rfl
      · exact absurd hsame (hno p)

/-- **A path that leads to a place leads there still** when the tree has grown. -/
theorem Grows.locate (hgrows : Grows t t') (h : t.locate path = .ok p) :
    t'.locate path = .ok p := by
  obtain ⟨route, place, hroute, hwalk, hend⟩ := locate_eq_ok.mp h
  refine locate_eq_ok.mpr ⟨route, place, hroute, ?_, ?_⟩
  · rw [hgrows.workingDirectory]
    exact hgrows.walk hwalk
  · rcases hend with ⟨hno, rfl⟩ | ⟨c, r, hsame, hfile⟩
    · exact .inl ⟨fun other hsame => hno other (hgrows.sameAs_iff.mp hsame), rfl⟩
    · obtain ⟨c', hfile'⟩ := hgrows.file hfile
      exact .inr ⟨c', r, hgrows.sameAs_iff.mpr hsame, hfile'⟩

/-! ## One name more -/

theorem advance_append_eq_ok {more : List String} {reach : Reach} :
    t.advance start (front ++ more) = .ok reach ↔
      (∃ q, t.advance start front = .ok (.place q) ∧ t.advance q more = .ok reach) ∨
        ∃ dir target rest, t.advance start front = .ok (.link dir target rest) ∧
          reach = .link dir target (rest ++ more) := by
  induction front generalizing start with
  | nil =>
      constructor
      · exact fun h => .inl ⟨start, rfl, h⟩
      · rintro (⟨q, hq, h⟩ | ⟨_, _, _, hlink, _⟩)
        · cases hq
          exact h
        · cases hlink
  | cons name rest ih =>
      rw [List.cons_append]
      simp only [advance_cons_eq_ok, ih]
      constructor
      · rintro ⟨next, henter, ⟨target, hlink, rfl⟩ | ⟨hno, hrest⟩⟩
        · exact .inr ⟨start, target, rest, ⟨next, henter, .inl ⟨target, hlink, rfl⟩⟩, rfl⟩
        · rcases hrest with ⟨q, hq, hmore⟩ | ⟨dir, target, behind, hlink, rfl⟩
          · exact .inl ⟨q, ⟨next, henter, .inr ⟨hno, hq⟩⟩, hmore⟩
          · exact .inr ⟨dir, target, behind, ⟨next, henter, .inr ⟨hno, hlink⟩⟩, rfl⟩
      · rintro (⟨q, ⟨next, henter, hnext⟩, hmore⟩ |
          ⟨dir, target, behind, ⟨next, henter, hnext⟩, rfl⟩)
        · rcases hnext with ⟨_, _, hq⟩ | ⟨hno, hq⟩
          · cases hq
          · exact ⟨next, henter, .inr ⟨hno, .inl ⟨q, hq, hmore⟩⟩⟩
        · rcases hnext with ⟨_, hlink, hreach⟩ | ⟨hno, hreach⟩
          · cases hreach
            exact ⟨next, henter, .inl ⟨target, hlink, rfl⟩⟩
          · exact ⟨next, henter, .inr ⟨hno, .inr ⟨dir, target, behind, hreach, rfl⟩⟩⟩

/-- **A walk goes by its fronts**: where the names of a front lead, the others go on,
with the links that are left. -/
theorem walk_append_of_eq_ok {more : List String} (h : t.walk links start (front ++ more) = .ok p) :
    ∃ dir fewer, t.walk links start front = .ok dir ∧ t.walk fewer dir more = .ok p := by
  induction links generalizing start front with
  | zero =>
      rcases walk_eq_ok.mp h with hend | ⟨_, _, _, _, _, hlinks, _⟩
      · rcases advance_append_eq_ok.mp hend with ⟨q, hq, hmore⟩ | ⟨_, _, _, _, hreach⟩
        · exact ⟨q, 0, walk_eq_ok.mpr (.inl hq), walk_eq_ok.mpr (.inl hmore)⟩
        · cases hreach
      · cases hlinks
  | succ fewer ih =>
      rcases walk_eq_ok.mp h with hend |
        ⟨dir, target, rest, _, route, hlinks, hreach, hroute, hrest⟩
      · rcases advance_append_eq_ok.mp hend with ⟨q, hq, hmore⟩ | ⟨_, _, _, _, hreach⟩
        · exact ⟨q, fewer, walk_eq_ok.mpr (.inl hq), walk_eq_ok.mpr (.inl hmore)⟩
        · cases hreach
      · cases hlinks
        rcases advance_append_eq_ok.mp hreach with ⟨q, hq, hmore⟩ | ⟨_, _, behind, hlink, heq⟩
        · exact ⟨q, fewer + 1, walk_eq_ok.mpr (.inl hq), walk_eq_ok.mpr
            (.inr ⟨dir, target, rest, fewer, route, rfl, hmore, hroute, hrest⟩)⟩
        · cases heq
          rw [← List.append_assoc] at hrest
          obtain ⟨q, less, hfront, hmore⟩ := ih hrest
          exact ⟨q, less, walk_eq_ok.mpr
            (.inr ⟨dir, target, behind, fewer, route, rfl, hlink, hroute, hfront⟩), hmore⟩

/-- Names without links can follow any walk. -/
theorem walk_append {more : List String} (h : t.walk links start front = .ok dir)
    (hmore : t.advance dir more = .ok (.place p)) :
    t.walk links start (front ++ more) = .ok p := by
  induction links generalizing start front with
  | zero =>
      rcases walk_eq_ok.mp h with hend | ⟨_, _, _, _, _, hlinks, _⟩
      · exact walk_eq_ok.mpr (.inl (advance_append_eq_ok.mpr (.inl ⟨dir, hend, hmore⟩)))
      · cases hlinks
  | succ fewer ih =>
      rcases walk_eq_ok.mp h with hend | ⟨d, target, rest, _, route, hlinks, hreach, hroute, hrest⟩
      · exact walk_eq_ok.mpr (.inl (advance_append_eq_ok.mpr (.inl ⟨dir, hend, hmore⟩)))
      · cases hlinks
        refine walk_eq_ok.mpr (.inr ⟨d, target, rest ++ more, fewer, route, rfl, ?_, hroute, ?_⟩)
        · exact advance_append_eq_ok.mpr (.inr ⟨d, target, rest, hreach, rfl⟩)
        · rw [← List.append_assoc]
          exact ih hrest

/-- One name leads to the place under it, unless a link is there. -/
theorem walk_singleton_eq_ok (h : t.walk links dir [name] = .ok p) :
    ∃ next, t.enter dir name = .ok next ∧
      (p = next ∨ ∃ target, t.get? next = some (.link target)) := by
  rcases walk_eq_ok.mp h with hend | ⟨_, _, _, _, _, _, hreach, _⟩
  · obtain ⟨next, henter, hnext⟩ := advance_cons_eq_ok.mp hend
    refine ⟨next, henter, ?_⟩
    rcases hnext with ⟨target, hlink, _⟩ | ⟨_, hrest⟩
    · exact .inr ⟨target, hlink⟩
    · cases hrest
      exact .inl rfl
  · obtain ⟨next, henter, hnext⟩ := advance_cons_eq_ok.mp hreach
    refine ⟨next, henter, ?_⟩
    rcases hnext with ⟨target, hlink, _⟩ | ⟨_, hrest⟩
    · exact .inr ⟨target, hlink⟩
    · cases hrest

theorem advance_singleton (henter : t.enter dir name = .ok p)
    (hno : ∀ target, t.get? p ≠ some (.link target)) :
    t.advance dir [name] = .ok (.place p) :=
  advance_cons_eq_ok.mpr ⟨p, henter, .inr ⟨hno, rfl⟩⟩

end FileTree

/-! ## Files in a directory -/

/-- A name that a file can have as it is. -/
structure PlainName (name : String) : Prop where
  notEmpty : name ≠ ""
  notDot : name ≠ "."
  notUp : name ≠ ".."
  noSlash : '/' ∉ name.toList

instance (name : String) : Decidable (PlainName name) :=
  decidable_of_iff ((name ≠ "" ∧ name ≠ "." ∧ name ≠ "..") ∧ '/' ∉ name.toList)
    ⟨fun ⟨⟨h₁, h₂, h₃⟩, h₄⟩ => ⟨h₁, h₂, h₃, h₄⟩, fun ⟨h₁, h₂, h₃, h₄⟩ => ⟨⟨h₁, h₂, h₃⟩, h₄⟩⟩

open Cli

variable {t t' : FileTree} {name path content : String} {p q dir start : Place}

/-- A plain name leads to the place under it, in a directory that can be passed. -/
theorem PlainName.enter_eq_ok (h : PlainName name) (henter : t.enter dir name = .ok p) :
    p = dir ++ [name] ∧ ∃ r, t.get? dir = some (.directory r) ∧ r.use = true := by
  obtain ⟨r, hdir⟩ := FileTree.directory_of_enter henter
  rw [FileTree.enter, hdir] at henter
  dsimp only at henter
  rw [if_neg h.notEmpty] at henter
  split at henter
  · cases henter
  · rename_i huse
    rw [if_neg h.notDot, if_neg h.notUp] at henter
    split at henter
    · cases henter
    · cases henter
      exact ⟨rfl, r, hdir, by simpa using huse⟩

theorem pathParts_ne_nil (path : String) : pathParts path ≠ [] := by
  rw [pathParts, Ne, List.map_eq_nil_iff]
  exact List.splitOn_ne_nil _ _

theorem pathParts_slash (front rest : String) :
    pathParts (front ++ "/" ++ rest) = pathParts front ++ pathParts rest := by
  have htext : (front ++ "/" ++ rest).toList = front.toList ++ '/' :: rest.toList := by simp
  rw [pathParts, htext, List.splitOn_append_cons_self, List.map_append]
  rfl

theorem PlainName.pathParts_eq (h : PlainName name) : pathParts name = [name] := by
  rw [pathParts, List.splitOn_eq_singleton h.noSlash, List.map_singleton, String.ofList_toList]

/-- The path of a file has one part more than that of its directory, but for a
slash at the end. -/
theorem exists_pathParts_childPath (hname : PlainName name) (hpath : path ≠ "") :
    ∃ parts more, pathParts path = parts ++ more ∧ pathParts (childPath path name) =
      parts ++ [name] ∧ parts ≠ [] ∧ ∀ part ∈ more, part = "" := by
  have hnotEmpty : path.isEmpty = false := by simpa using hpath
  rw [childPath, hnotEmpty, Bool.false_or]
  by_cases hslash : path.toList.getLast? = some '/'
  · obtain ⟨front, hfront⟩ := List.getLast?_eq_some_iff.mp hslash
    have hpath : path = String.ofList front ++ "/" := by
      apply String.toList_injective
      simp [hfront]
    have hparts : pathParts path = pathParts (String.ofList front) ++ [""] := by
      have hslashed := pathParts_slash (String.ofList front) ""
      rw [String.append_empty, ← hpath] at hslashed
      exact hslashed
    rw [if_pos (by simpa using hslash)]
    refine ⟨pathParts (String.ofList front), [""], hparts, ?_, pathParts_ne_nil _, by simp⟩
    rw [hpath, pathParts_slash, hname.pathParts_eq]
  · rw [if_neg (by simpa using hslash)]
    refine ⟨pathParts path, [], (List.append_nil _).symm, ?_, pathParts_ne_nil _, by simp⟩
    rw [pathParts_slash, hname.pathParts_eq]

theorem Route.ofPath_eq_ok {route : Route} :
    Route.ofPath path = .ok route ↔
      '\x00' ∉ path.toList ∧ path.utf8ByteSize < pathLimit ∧ path ≠ "" ∧ route = {
        isAbsolute := (pathParts path).head? = some ""
        names := (pathParts path).filter fun p => p ≠ "" && p ≠ "."
        ending :=
          if ((pathParts path).filter (· ≠ "")).getLast? = some "." then ["."]
          else if (pathParts path).getLast? = some "" then [""]
          else [] } := by
  rw [Route.ofPath]
  by_cases hnul : path.toList.contains '\x00' = true
  · rw [if_pos hnul]
    exact ⟨(nomatch ·), fun h => absurd (List.contains_iff_mem.mp hnul) h.1⟩
  · rw [if_neg hnul]
    have hnul' : '\x00' ∉ path.toList := fun h => hnul (List.contains_iff_mem.mpr h)
    by_cases hlong : pathLimit ≤ path.utf8ByteSize
    · rw [if_pos hlong]
      exact ⟨(nomatch ·), fun h => absurd h.2.1 (Nat.not_lt.mpr hlong)⟩
    · rw [if_neg hlong]
      by_cases hempty : path = ""
      · rw [if_pos (by simpa using hempty)]
        exact ⟨(nomatch ·), fun h => absurd hempty h.2.2.1⟩
      · rw [if_neg (by simpa using hempty)]
        exact ⟨fun h => ⟨hnul', Nat.not_le.mp hlong, hempty, (Except.ok.inj h).symm⟩,
          fun h => h.2.2.2 ▸ rfl⟩

/-- The text of a directory is in front of those of its files. -/
theorem exists_childPath_eq (path name : String) : ∃ more, childPath path name = path ++ more := by
  unfold childPath
  split
  · exact ⟨name, rfl⟩
  · exact ⟨"/" ++ name, String.append_assoc⟩

/-- **The route of a file in a directory** has its name at the end. -/
theorem Route.ofPath_childPath {route' : Route} (hname : PlainName name) (hpath : path ≠ "")
    (h : Route.ofPath (childPath path name) = .ok route') :
    ∃ route, Route.ofPath path = .ok route ∧ route'.isAbsolute = route.isAbsolute ∧
      route'.steps = route.names ++ [name] := by
  obtain ⟨hnul, hshort, _, rfl⟩ := Route.ofPath_eq_ok.mp h
  obtain ⟨text, htext⟩ := exists_childPath_eq path name
  obtain ⟨parts, more, hparts, hchild, hnotNil, hmore⟩ := exists_pathParts_childPath hname hpath
  refine ⟨_, Route.ofPath_eq_ok.mpr ⟨?_, ?_, hpath, rfl⟩, ?_, ?_⟩
  · intro hmem
    exact hnul (by rw [htext, String.toList_append]; exact List.mem_append_left _ hmem)
  · rw [htext, String.utf8ByteSize_append] at hshort
    omega
  · rw [hchild, hparts, List.head?_append_of_ne_nil _ hnotNil,
      List.head?_append_of_ne_nil _ hnotNil]
  · have hnone : (more.filter fun p => p ≠ "" && p ≠ ".") = [] := by
      refine List.filter_eq_nil_iff.mpr fun part hpart => ?_
      simp [hmore part hpart]
    have hkept : ([name].filter fun p => p ≠ "" && p ≠ ".") = [name] := by
      simp [hname.notEmpty, hname.notDot]
    have hnames : (pathParts (childPath path name)).filter (fun p => p ≠ "" && p ≠ ".") =
        (pathParts path).filter (fun p => p ≠ "" && p ≠ ".") ++ [name] := by
      rw [hchild, hparts, List.filter_append, List.filter_append, hnone, hkept, List.append_nil]
    have hlast : ((pathParts (childPath path name)).filter (· ≠ "")).getLast? = some name := by
      rw [hchild, List.filter_append]
      simp [hname.notEmpty]
    have hend : (pathParts (childPath path name)).getLast? = some name := by
      rw [hchild, List.getLast?_concat]
    rw [steps, hnames, hlast, hend, if_neg (fun heq => hname.notDot (Option.some.inj heq)),
      if_neg (fun heq => hname.notEmpty (Option.some.inj heq)), List.append_nil]

/-- The route of a name by itself. -/
theorem Route.ofPath_plainName {route : Route} (hname : PlainName name)
    (h : Route.ofPath name = .ok route) : route.isAbsolute = false ∧ route.steps = [name] := by
  obtain ⟨_, _, _, rfl⟩ := Route.ofPath_eq_ok.mp h
  simp [steps, hname.pathParts_eq, hname.notEmpty, hname.notDot]

/-- A directory whose name is left out is the working directory. -/
def FileTree.directoryOf (t : FileTree) (path : String) : Except FileFault Place :=
  if path.isEmpty then .ok t.workingDirectory else t.locate path

namespace FileTree

/-- A directory that can be passed can be ended in. -/
theorem advance_ending {r : Rights} {ending : List String} (hdir : t.get? dir = some (.directory r))
    (huse : r.use = true) (hending : ending = [] ∨ ending = ["."] ∨ ending = [""]) :
    t.advance dir ending = .ok (.place dir) := by
  have hno : ∀ target, t.get? dir ≠ some (.link target) := by simp [hdir]
  rcases hending with rfl | rfl | rfl
  · rfl
  · refine advance_singleton ?_ hno
    rw [enter, hdir]
    simp [huse]
  · refine advance_singleton ?_ hno
    rw [enter, hdir]
    rfl

/-- Whether the names of a place lead on from there. -/
def LeadsOn (t : FileTree) (p : Place) : Prop :=
  (∃ target, t.get? p = some (.link target)) ∨ ∃ place, t.get? p = some (.sameAs place)

/-- A plain name at the end leads under what is in front of it, unless a link is there. -/
theorem walk_plainName {links : Nat} {front : List String} (hname : PlainName name)
    (h : t.walk links start (front ++ [name]) = .ok p) :
    ∃ dir r, t.walk links start front = .ok dir ∧ t.get? dir = some (.directory r) ∧
      r.use = true ∧
      (p = dir ++ [name] ∨ ∃ target, t.get? (dir ++ [name]) = some (.link target)) := by
  obtain ⟨dir, fewer, hfront, hlast⟩ := walk_append_of_eq_ok h
  obtain ⟨next, henter, hnext⟩ := walk_singleton_eq_ok hlast
  obtain ⟨rfl, r, hdir, huse⟩ := hname.enter_eq_ok henter
  exact ⟨dir, r, hfront, hdir, huse, hnext⟩

/-- The directory at a path, from where its names lead. -/
theorem directoryOf_eq_ok {route : Route} {r : Rights} (hroute : Route.ofPath path = .ok route)
    (hwalk : t.walk linkLimit (startOf t.workingDirectory route) route.names = .ok dir)
    (hdir : t.get? dir = some (.directory r)) (huse : r.use = true) :
    t.directoryOf path = .ok dir := by
  obtain ⟨_, _, hpath, hparts⟩ := Route.ofPath_eq_ok.mp hroute
  rw [directoryOf, if_neg (by simpa using hpath)]
  have hending : route.ending = [] ∨ route.ending = ["."] ∨ route.ending = [""] := by
    rw [hparts]
    dsimp only
    split
    · exact .inr (.inl rfl)
    · split
      · exact .inr (.inr rfl)
      · exact .inl rfl
  refine locate_eq_ok.mpr ⟨route, dir, hroute, ?_, .inl ⟨by simp [hdir], rfl⟩⟩
  exact walk_append hwalk (advance_ending hdir huse hending)

/-- **The place of a file in a directory** is that of the directory with the name behind
it, or where what is there leads on to. -/
theorem locate_childPath (hname : PlainName name) (h : t.locate (childPath path name) = .ok p) :
    ∃ dir r, t.directoryOf path = .ok dir ∧ t.get? dir = some (.directory r) ∧
      (p = dir ++ [name] ∨ t.LeadsOn (dir ++ [name])) := by
  obtain ⟨route', place, hroute', hwalk, hend⟩ := locate_eq_ok.mp h
  have hdirectory : ∃ dir r, t.directoryOf path = .ok dir ∧ t.get? dir = some (.directory r) ∧
      (place = dir ++ [name] ∨ ∃ target, t.get? (dir ++ [name]) = some (.link target)) := by
    by_cases hpath : path = ""
    · subst hpath
      have hchild : childPath "" name = name := String.empty_append
      rw [hchild] at hroute'
      obtain ⟨hrelative, hsteps⟩ := Route.ofPath_plainName hname hroute'
      rw [startOf, hrelative, if_neg Bool.false_ne_true, hsteps, ← List.nil_append [name]] at hwalk
      obtain ⟨dir, r, hfront, hdir, _, hplace⟩ := walk_plainName hname hwalk
      have hstart : t.walk linkLimit t.workingDirectory [] = .ok t.workingDirectory :=
        walk_eq_ok.mpr (.inl rfl)
      rw [hstart] at hfront
      cases hfront
      exact ⟨_, r, rfl, hdir, hplace⟩
    · obtain ⟨route, hroute, habsolute, hsteps⟩ := Route.ofPath_childPath hname hpath hroute'
      rw [hsteps, startOf, habsolute] at hwalk
      obtain ⟨dir, r, hfront, hdir, huse, hplace⟩ := walk_plainName hname hwalk
      exact ⟨dir, r, directoryOf_eq_ok hroute hfront hdir huse, hdir, hplace⟩
  obtain ⟨dir, r, hdirectory, hdir, hplace⟩ := hdirectory
  refine ⟨dir, r, hdirectory, hdir, ?_⟩
  rcases hplace with rfl | hlink
  · rcases hend with ⟨_, rfl⟩ | ⟨_, _, hsame, _⟩
    · exact .inl rfl
    · exact .inr (.inr ⟨p, hsame⟩)
  · exact .inr (.inl hlink)

/-! ## Changes -/

theorem ne_nil_of_get?_file {c : Content} {r : Rights} (h : t.get? p = some (.file c r)) :
    p ≠ [] := by
  rintro rfl
  cases h

theorem ne_nil_of_get?_none (h : t.get? p = none) : p ≠ [] := by
  rintro rfl
  cases h

/-- **Writing a file** sets the content at the place that its path leads to, and nothing
else. -/
theorem write_eq_ok (h : t.write path content = .ok t') :
    Grows t t' ∧ ∃ p r, t.locate path = .ok p ∧ t'.get? p = some (.file content r) ∧
      ∀ q, q ≠ p → t'.get? q = t.get? q := by
  obtain ⟨p, hlocate, hset⟩ := except_bind_eq_ok.mp h
  split at hset
  · rename_i c r hfile
    split at hset
    · cases hset
      have hp := ne_nil_of_get?_file hfile
      refine ⟨.set hp (by rw [hfile]; exact .rewritten c content r), p, r, hlocate, ?_, ?_⟩
      · exact get?_set_self hp t _
      · exact fun q hq => get?_set_of_ne hq t _
    · cases hset
  · cases hset
  · rename_i hnone
    split at hset
    · cases hset
      have hp := ne_nil_of_get?_none hnone
      refine ⟨.set hp (by rw [hnone]; exact .newFile content), p, t.fileRights, hlocate, ?_, ?_⟩
      · exact get?_set_self hp t _
      · exact fun q hq => get?_set_of_ne hq t _
    · cases hset

/-- A place that some of the first names of a path lead to. -/
def OnTheWay (t : FileTree) (path : String) (p : Place) : Prop :=
  ∃ route front, Route.ofPath path = .ok route ∧ front <+: route.names ∧
    t.walk linkLimit (startOf t.workingDirectory route) front = .ok p

variable {mayMake : Bool} {front names : List String}

/-- A directory is made where the names lead and nothing is. -/
theorem addDirectory_eq_ok (h : t.addDirectory mayMake start front name = .ok t') :
    Grows t t' ∧ ∃ p, t'.walk linkLimit start (front ++ [name]) = .ok p ∧ t.get? p = none ∧
      t'.get? p = some (.directory t.directoryRights) ∧ ∀ q, q ≠ p → t'.get? q = t.get? q := by
  obtain ⟨dir, hwalk, h⟩ := except_bind_eq_ok.mp h
  obtain ⟨p, henter, h⟩ := except_bind_eq_ok.mp h
  split at h
  · cases h
  · rename_i hnone
    split at h
    · cases h
    · split at h
      · cases h
        have hp := ne_nil_of_get?_none hnone
        have hgrows : Grows t (t.set p (.directory t.directoryRights)) :=
          .set hp (by rw [hnone]; exact .newDirectory)
        have hself := get?_set_self hp t (.directory t.directoryRights)
        refine ⟨hgrows, p, ?_, hnone, hself, fun q hq => get?_set_of_ne hq t _⟩
        exact walk_append (hgrows.walk hwalk)
          (advance_singleton (hgrows.enter henter) (by simp [hself]))
      · cases h

/-- What is new where directories were made along some names. -/
structure MadeAlong (t t' : FileTree) (start : Place) (names : List String) : Prop where
  grows : Grows t t'
  changed : ∀ q, t'.get? q = t.get? q ∨
    t.get? q = none ∧ t'.get? q = some (.directory t.directoryRights) ∧
      ∃ front, front <+: names ∧ t'.walk linkLimit start front = .ok q

/-- One name more in front. -/
theorem MadeAlong.of_addDirectory {next : FileTree}
    (hadd : t.addDirectory mayMake start front name = .ok next)
    (hfront : front ++ [name] <+: names) (h : MadeAlong next t' start names) :
    MadeAlong t t' start names := by
  obtain ⟨hgrows, p, hwalk, hnone, hself, hothers⟩ := addDirectory_eq_ok hadd
  refine ⟨hgrows.trans h.grows, fun q => ?_⟩
  by_cases hq : q = p
  · subst hq
    exact .inr ⟨hnone, h.grows.directory hself, _, hfront, h.grows.walk hwalk⟩
  · rw [← hothers q hq, ← hgrows.directoryRights]
    exact h.changed q

theorem makeBehind_eq_ok {mayMakeLast : Bool} {rest : List String}
    (h : t.makeBehind mayMakeLast start front rest = .ok t') (hnames : front ++ rest <+: names) :
    MadeAlong t t' start names := by
  induction rest generalizing t front with
  | nil =>
      cases h
      exact ⟨.refl _, fun q => .inl rfl⟩
  | cons name rest ih =>
      have hbehind : (front ++ [name]) ++ rest <+: names := by
        rwa [List.append_assoc]
      have hfront : front ++ [name] <+: names := (List.prefix_append _ _).trans hbehind
      rw [makeBehind] at h
      split at h
      · rename_i next hadd
        exact (ih h hbehind).of_addDirectory hadd hfront
      · split at h
        · exact ih h hbehind
        · cases h

/-- **Making a directory** makes the directories on its way that are missing, and
changes nothing else. -/
theorem makeDirectory_eq_ok (h : t.makeDirectory path = .ok t') :
    Grows t t' ∧ ∀ q, t'.get? q = t.get? q ∨
      t.get? q = none ∧ t'.get? q = some (.directory t.directoryRights) ∧ t'.OnTheWay path q := by
  rw [makeDirectory] at h
  split at h
  · cases h
    exact ⟨.refl _, fun q => .inl rfl⟩
  · split at h
    · cases h
    · rename_i route hroute
      obtain ⟨made, hmake, h⟩ := except_bind_eq_ok.mp h
      split at h
      · cases h
        obtain ⟨hgrows, hchanged⟩ := makeBehind_eq_ok hmake (List.prefix_refl _)
        refine ⟨hgrows, fun q => ?_⟩
        rcases hchanged q with hsame | ⟨hnone, hdirectory, front, hfront, hwalk⟩
        · exact .inl hsame
        · refine .inr ⟨hnone, hdirectory, route, front, hroute, hfront, ?_⟩
          rwa [hgrows.workingDirectory]
      · cases h

end FileTree

end ApiMocks
