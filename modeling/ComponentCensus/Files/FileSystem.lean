import ComponentCensus.Files.Reason

/-!
# File systems

What the program can find out about files.  A file system has finitely many directories, each
with an identity of its own, however many names lead to it.  Its entries depend on it alone; what
an entry is, and whether it can be listed, depends on the directory and the name of the entry; what
is at a path, and whether it may be read, depends on the path.

Names are texts, so an entry whose name is no text has no place here.  Nothing changes while the
program looks, and whether a look fails does not depend on how much has been looked at before.

* `Sighting` — what a look at a path or an entry shows, links followed.
* `FileSystem` — the looks that are possible, and the entries of each directory.
* `nodup_eraseDups` — a list of names in which every name is kept once is a listing.
-/

set_option autoImplicit false

namespace ComponentCensus

/-- The content of a file. -/
abbrev Bytes := List UInt8

/-- What a look shows. -/
inductive Sighting (δ : Type) where
  /-- A directory, with its identity as far as it can be found out, and the cause for which it
  cannot be listed, if there is one. -/
  | directory (identity : Except Reason δ) (refusal : Option Reason)
  /-- Something else, with the bytes that reading it yields, or the cause for which it cannot be
  opened or read. -/
  | file (bytes : Except Reason Bytes)
  /-- Nothing. -/
  | missing (reason : Reason)
  /-- The look itself fails. -/
  | blocked (reason : Reason)

namespace Sighting

variable {δ : Type}

/-- The directory that can be listed. -/
def listed : Sighting δ → Except Reason δ
  | directory _ (some reason) => .error reason
  | directory identity none => identity
  | file _ => .error .notDirectory
  | missing reason => .error reason
  | blocked reason => .error reason

/-- The bytes that reading yields. -/
def bytes : Sighting δ → Except Reason Bytes
  | directory _ _ => .error .isDirectory
  | file bytes => bytes
  | missing reason => .error reason
  | blocked reason => .error reason

end Sighting

/-- Keeping every element once, where it occurs first, leaves no repetition. -/
theorem nodup_eraseDups {α : Type} [BEq α] [LawfulBEq α] : ∀ l : List α, l.eraseDups.Nodup
  | [] => by simp
  | a :: l => by
    have hlt : (l.filter fun b => !b == a).length < (a :: l).length :=
      Nat.lt_succ_of_le (List.length_filter_le ..)
    rw [List.eraseDups_cons, List.nodup_cons]
    exact ⟨by simp, nodup_eraseDups _⟩
termination_by l => l.length
decreasing_by exact hlt

/-- A file system. -/
structure FileSystem where
  /-- The number of directories. -/
  size : Nat
  /-- The entries of a directory, in the order in which they are listed. -/
  names : Fin size → List String
  /-- No entry is listed twice. -/
  names_nodup : ∀ d, (names d).Nodup
  /-- What is at a path; no path at all holds a NUL character. -/
  visit : Path → Option (Sighting (Fin size))
  /-- What an entry of a directory is. -/
  entry : Fin size → String → Sighting (Fin size)
  /-- Whether what is at a path may be read, as far as its permissions tell before it is opened. -/
  mayRead : Path → Bool
  /-- The path of the working directory. -/
  workingDirectory : Path

namespace FileSystem

/-- A directory of a file system. -/
abbrev Directory (fs : FileSystem) := Fin fs.size

end FileSystem
end ComponentCensus
