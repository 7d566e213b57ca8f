import MailScript.Files.Search
import MailScript.Proofs.Results

/-! # Searching without failing

A search for scripts may end early: a name is too long for the file system, or what is searched for
makes no sense. It never ends with a failure of the harness. -/

namespace MailScript

variable {α β : Type}

/-- An operation does not end with a failure of the harness. -/
def Unfailing (result : Except Fault α) : Prop :=
  ∀ failure, result ≠ .error (.failure failure)

namespace Unfailing

theorem ok (x : α) : Unfailing (.ok x) := nofun

theorem bind {result : Except Fault α} {next : α → Except Fault β} (h : Unfailing result)
    (hnext : ∀ x, Unfailing (next x)) : Unfailing (result >>= next) := by
  intro failure heq
  rcases error_of_bind heq with hresult | ⟨x, -, hx⟩
  · exact h failure hresult
  · exact hnext x failure hx

theorem mapM {f : α → Except Fault β} (h : ∀ x, Unfailing (f x)) (xs : List α) :
    Unfailing (xs.mapM f) := by
  intro failure heq
  rcases mapM_cases f xs with ⟨ys, hys, -⟩ | ⟨x, -, fault, hx, hfault⟩
  · cases hys.symm.trans heq
  · cases hfault.symm.trans heq
    exact h x failure hx

end Unfailing

theorem unfailing_searchPart (text : String) : Unfailing (SearchPart.ofString text) := by
  unfold SearchPart.ofString
  repeat' split
  all_goals nofun

theorem unfailing_readSearch (pattern : String) : Unfailing (readSearch pattern) := by
  unfold readSearch
  dsimp only
  split
  · nofun
  · exact (Unfailing.mapM unfailing_searchPart _).bind fun _ => .ok _

namespace FileTree

theorem unfailing_isDirectoryAt (tree : FileTree) (path : Path) :
    Unfailing (tree.isDirectoryAt path) := by
  unfold isDirectoryAt
  split
  · nofun
  · nofun
  · split <;> nofun
  · nofun

theorem unfailing_select (tree : FileTree) (parts : List SearchPart) (path : Path) :
    Unfailing (tree.select parts path) := by
  induction parts generalizing path with
  | nil => exact .ok [path]
  | cons part rest ih =>
      cases part with
      | anywhere => exact (Unfailing.mapM ih _).bind fun _ => .ok _
      | above => exact ih _
      | matching pattern => exact (Unfailing.mapM (fun entry => ih _) _).bind fun _ => .ok _
      | named name =>
          refine (tree.unfailing_isDirectoryAt _).bind fun directory => ?_
          split
          · exact ih _
          · exact .ok []

theorem unfailing_filesBelow (tree : FileTree) (pattern : String) (directory : Path) :
    Unfailing (tree.filesBelow pattern directory) :=
  (unfailing_readSearch pattern).bind fun _ =>
    (tree.unfailing_select _ directory).bind fun _ => .ok _

/-- A search for scripts does not end with a failure of the harness. -/
theorem unfailing_discover (tree : FileTree) (pattern : String) (paths : List Path) :
    Unfailing (tree.discover pattern paths) := by
  induction paths with
  | nil => exact .ok []
  | cons path rest ih =>
      have hrest (scripts : List Path) :
          Unfailing (tree.discover pattern rest >>= fun later => pure (scripts ++ later)) :=
        ih.bind fun _ => .ok _
      refine (tree.unfailing_isDirectoryAt path).bind fun directory => ?_
      cases directory with
      | true => exact (tree.unfailing_filesBelow pattern path).bind hrest
      | false => exact hrest [path]

end FileTree

end MailScript
