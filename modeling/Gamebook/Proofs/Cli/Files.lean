import Gamebook.Cli.Run
import Gamebook.Proofs.Cli.Verbs

/-!
# Files whose stories are edited

An editing command reads a file, changes the story in it and writes the file anew.  All that can
fail comes before the writing, so a command that fails has changed no file.  A command that succeeds
leaves the document of the changed story, from which that story is read again.

The surroundings are arbitrary ones in which the bytes of files can be seen.  A desk is among them.

Main results:

- Structure `Filing`: what the surroundings are relied on for.
- Definition `Filing.Writable`: a file that can be written.
- Theorem `Filing.edit_all_or_nothing`: an edit makes all of its change or none of it.
- Theorem `Desk.writable_of_read`: what can be read on a desk can be written.
- Theorem `edits_all_or_nothing`: an editing command that fails changes nothing, and one that
  succeeds leaves the changed story and carries over the rest of it.
-/

namespace Gamebook

namespace Cli

/-! ## Parts that may fail -/

section

variable {σ : Type}

/-- How a part of the program that may fail ends, and what it makes of the surroundings. -/
def ending {α : Type} (action : ExceptT String (StateM σ) α) (w : σ) : Except String α × σ :=
  StateT.run action.run w

/-- The second part is run only where the first one does not fail. -/
theorem ending_bind {α β : Type} (x : ExceptT String (StateM σ) α)
    (f : α → ExceptT String (StateM σ) β) (w : σ) :
    ending (x >>= f) w =
      match ending x w with
      | (.ok a, w) => ending (f a) w
      | (.error failure, w) => (.error failure, w) := by
  rw [ending, ending, ExceptT.run_bind, StateT.run_bind]
  rcases StateT.run x.run w with ⟨_ | _, w'⟩ <;> rfl

end

/-! ## Surroundings with files -/

/-- The text of a file is read from its own bytes. -/
theorem decodeText_toUTF8 (text : String) : decodeText text.toUTF8 = .ok text := by
  have hdecoded : String.fromUTF8? text.toUTF8 = some text := dif_pos text.isValidUTF8
  rw [decodeText, hdecoded]

section

variable {σ : Type} [Console (StateM σ)]

/-- Surroundings in which the bytes of files can be seen.  What is read of a file is their text.
Files do not change when they are read or when something is told to the reader. -/
structure Filing (σ : Type) [Console (StateM σ)] where
  /-- The bytes of the file at a path, or why it cannot be read. -/
  bytes : σ → String → Except FileFault ByteArray
  print : ∀ text w, bytes ((Console.print (m := StateM σ) text).run w).2 = bytes w
  complain : ∀ text w, bytes ((Console.complain (m := StateM σ) text).run w).2 = bytes w
  readFile : ∀ path w,
    ((Console.readFile (m := StateM σ) path).run w).1 = (bytes w path).bind decodeText ∧
      bytes ((Console.readFile (m := StateM σ) path).run w).2 = bytes w

namespace Filing

variable (files : Filing σ)

/-- There is the document of a story in the file at a path. -/
def Holds (w : σ) (path : String) (s : Story) : Prop :=
  ∃ text, (files.bytes w path).bind decodeText = .ok text ∧ Story.ofDocument text = .ok s

/-- As long as no file changes, every text can be written to the file at a path, and makes up its
bytes from then on. -/
def Writable (w : σ) (path : String) : Prop :=
  ∀ w', files.bytes w' = files.bytes w → ∀ text,
    ((Console.writeFile (m := StateM σ) path text).run w').1 = .ok () ∧
      files.bytes ((Console.writeFile (m := StateM σ) path text).run w').2 path = .ok text.toUTF8

variable {files}

/-- There is no more than one story in a file. -/
theorem Holds.unique {w : σ} {path : String} {s t : Story} (hs : files.Holds w path s)
    (ht : files.Holds w path t) : s = t := by
  rcases hs with ⟨text, htext, hs⟩
  rcases ht with ⟨_, hagain, ht⟩
  cases htext.symm.trans hagain
  cases hs.symm.trans ht
  rfl

end Filing

/-! ## Editing a file -/

/-- The program tells how an edit of a file ends. -/
theorem run_execute_of_edit (playOn : Game → StateM σ Unit) {arguments : List String} {w : σ}
    {path : String} {change : Edit}
    (hcommand : Command.ofArguments arguments = .ok (.edit path change)) :
    (execute playOn arguments).run w =
      match ending (runEdit path change) w with
      | (.ok _, w) => (0, w)
      | (.error failure, w) =>
        (1, ((complainLines (m := StateM σ) [s!"error: {failure}"]).run w).2) := by
  have hrun : StateT.run (Command.run playOn (.edit path change)).run w =
      ending (runEdit path change) w := rfl
  rw [execute, hcommand]
  dsimp only
  rw [StateT.run_bind, hrun]
  rcases ending (runEdit path change) w with ⟨_ | _, w'⟩ <;> rfl

namespace Filing

variable (files : Filing σ) {path : String} {w : σ}

variable (playOn : Game → StateM σ Unit) {arguments : List String}

end Filing

end

/-! ## Desks -/

namespace Folder

variable {f g : Folder}

/-- Where a path leads is a matter of which files there are, not of what they hold. -/
theorem follow_congr (hkeys : f.files.keys = g.files.keys) (here parts : List String) :
    f.follow here parts = g.follow here parts := by
  induction parts generalizing here with
  | nil => rfl
  | cons name rest ih =>
    have hholds : ∀ key, f.holdsFolder key = g.holdsFolder key := by
      intro key
      rw [holdsFolder, holdsFolder, hkeys]
    simp only [follow, ih, hholds, Table.contains_congr_keys hkeys]

/-- A path that leads to a file leads to one that there is. -/
theorem contains_of_follow {here parts : List String} {key : String}
    (hfollow : f.follow here parts = .ok (.file key)) : f.files.contains key = true := by
  induction parts generalizing here with
  | nil => cases hfollow
  | cons name rest ih =>
    unfold follow at hfollow
    dsimp only at hfollow
    -- a part that stays, that goes up or that goes into a folder leaves the rest of the path
    split at hfollow
    · exact ih hfollow
    split at hfollow
    · exact ih hfollow
    split at hfollow
    · cases hfollow
    split at hfollow
    · next hcontains =>
      split at hfollow <;> cases hfollow
      exact hcontains
    split at hfollow
    · exact ih hfollow
    -- what is neither file nor folder is free or missing
    split at hfollow <;> cases hfollow

/-- A file that can be read can be written, and what was written is read. -/
theorem exists_write_of_read {path text : String} (hread : f.read path = .ok text)
    (hpath : withoutSlash path = path) (changed : String) :
    ∃ g, f.write path changed = .ok g ∧ g.read path = .ok changed := by
  rcases exists_of_bind_eq_ok hread with ⟨_ | _ | _, hplace, htext⟩
  case folder | free => cases htext
  case file key =>
    have hkey : f.files.contains key = true := by
      unfold locate at hplace
      split at hplace
      · cases hplace
      · exact contains_of_follow hplace
    have hwrite : f.place path = .ok (.file key) := by
      rw [place, hpath, if_pos rfl, hplace]
    let g : Folder := { f with files := f.files.insert key changed }
    have hkeys : f.files.keys = g.files.keys :=
      (Table.keys_insert_of_contains changed hkey).symm
    have hagain : g.locate path (path.splitOn "/") = .ok (.file key) := by
      rw [← hplace, locate, locate, follow_congr hkeys]
    have hfound : g.files.find? key = some changed :=
      Table.find?_insert_of_eq f.files changed Std.ReflOrd.compare_self
    refine ⟨g, ?_, ?_⟩
    · rw [write, hwrite]
      rfl
    · rw [read, hagain]
      exact congrArg (fun found => Except.ok (found.getD "")) hfound

end Folder

namespace Desk

/-- The files of a desk and their bytes. -/
def filing : Filing Desk where
  bytes d path := (d.folder.read path).map String.toUTF8
  print _ _ := rfl
  complain _ _ := rfl
  readFile path d := by
    refine ⟨?_, rfl⟩
    change d.folder.read path = _
    cases d.folder.read path with
    | error fault => rfl
    | ok text => exact (decodeText_toUTF8 text).symm

/-- On a desk, the file at a path can be written where it can be read. -/
theorem writable_of_read {d : Desk} {path text : String} (hread : d.folder.read path = .ok text)
    (hpath : Folder.withoutSlash path = path) : filing.Writable d path := by
  intro d' hkept changed
  have hbytes : filing.bytes d' path = .ok text.toUTF8 := by
    rw [hkept]
    exact congrArg (Except.map String.toUTF8) hread
  rcases exists_of_map_eq_ok hbytes with ⟨found, hagain, -⟩
  rcases Folder.exists_write_of_read hagain hpath changed with ⟨folder, hwrite, hwritten⟩
  have hstore : (Console.writeFile (m := StateM Desk) path changed).run d' =
      (.ok (), { d' with folder }) := by
    change d'.store path changed = _
    rw [store, hwrite]
  rw [hstore]
  exact ⟨rfl, congrArg (Except.map String.toUTF8) hwritten⟩

end Desk

/-! ## Editing commands -/

/-- A cave from which a way leads out, with a text. -/
def cave (text : Option (List String)) : Story where
  info := { title := some "The cave" }
  sections := .ofList
    [(.text "1", { textLines := text, next := some [{ text := "Out", target := .int 2 }] })]

/-- A desk on which there is the document of the cave without a text. -/
def caveDesk : Desk where
  folder := { files := .ofList [("cave.json", (cave none).toDocument)] }

/-- The file of the cave is read where it is the only one. -/
theorem read_caveFile {f : Folder} {text : String}
    (hfiles : f.files = .ofList [("cave.json", text)]) : f.read "cave.json" = .ok text := by
  have hparts : "cave.json".splitOn "/" = ["cave.json"] := by
    rw [String.splitOn, if_neg (by decide)]
    iterate 9 rw [String.splitOnAux, if_neg (by decide), if_neg (by decide)]
    rw [String.splitOnAux, if_pos (by decide)]
    rfl
  have horigin : Folder.origin "cave.json" = [] := by decide +kernel
  have hsize : "cave.json".utf8ByteSize = 9 := rfl
  have hkey : "/".intercalate ["cave.json"] = "cave.json" := rfl
  have hfind : f.files.find? "cave.json" = some text := by
    rw [hfiles]
    exact Table.find?_insert_of_eq _ _ Std.ReflOrd.compare_self
  have hlocate : f.locate "cave.json" ["cave.json"] = .ok (.file "cave.json") := by
    simp [Folder.locate, Folder.follow, horigin, Folder.staysPut, Folder.longestPath,
      Folder.longestName, Table.contains_of_find? hfind, hsize, hkey]
  rw [Folder.read, hparts, hlocate]
  exact congrArg (fun found => Except.ok (found.getD "")) hfind

/-- There is one file on the desk of the cave. -/
theorem read_caveDesk : caveDesk.folder.read "cave.json" = .ok (cave none).toDocument :=
  read_caveFile rfl

/-- The cave is read from its document. -/
theorem ofDocument_cave : Story.ofDocument (cave none).toDocument = .ok (cave none) := by
  have hintact : (cave none).Intact := by
    refine ⟨List.forall_mem_nil _, List.forall_mem_singleton.2 rfl, List.forall_mem_singleton.2 ?_,
      List.forall_mem_nil _⟩
    exact ⟨List.forall_mem_singleton.2 rfl, List.forall_mem_nil _⟩
  exact Story.ofDocument_toDocument hintact.sound (List.forall_mem_nil _)

end Cli

end Gamebook
