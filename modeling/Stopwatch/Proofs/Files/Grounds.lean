/-
  Directories and the ways to them.

  Most of what is removed is a file, or a link to one.  As long as directories stay, and links
  that lead to directories, a path to a directory leads there as before.
-/
import Stopwatch.Proofs.Files.Tree

namespace Stopwatch.Files

variable {fs₀ fs fs' : Files} {l d own gone : Location} {links : Nat} {here : Location} {names : List String}

/-- A link at a location, with a given target, leads to a directory. -/
def LinksToDirectory (fs : Files) (l : Location) (target : String) : Prop :=
  ∃ links d, Leads fs true links (if (Path.ofText target).isAbsolute then [] else l.dropLast)
    (Path.ofText target).names d ∧ fs.find? d = some .directory

/-- The directories have stayed, and so have the links that lead to directories. -/
structure Grounds (fs₀ fs : Files) : Prop where
  here : fs.workingDirectory = fs₀.workingDirectory
  directories : ∀ l, fs₀.find? l = some .directory → fs.find? l = some .directory
  links : ∀ l target, fs₀.find? l = some (.link target) → fs₀.LinksToDirectory l target →
    fs.find? l = some (.link target)

namespace Grounds

theorem refl (fs : Files) : fs.Grounds fs := ⟨rfl, fun _ => id, fun _ _ h _ => h⟩

theorem of_extends (h : fs₀.Grounds fs) (hhere : fs'.workingDirectory = fs.workingDirectory) (hext : fs.Extends fs') :
    fs₀.Grounds fs' where
  here := hhere.trans h.here
  directories l hl := hext l _ rfl (h.directories l hl)
  links l target hl hlead := hext l _ rfl (h.links l target hl hlead)

/-- Names that led to a directory still do. -/
theorem leads (h : fs₀.Grounds fs) {follow : Bool} (hleads : Leads fs₀ follow links here names d)
    (hd : fs₀.find? d = some .directory) : Leads fs follow links here names d := by
  induction hleads with
  | done => exact .done
  | up hdirectory _ ih => exact .up (h.directories _ hdirectory) (ih hd)
  | @into links here d name rest hdirectory hname hlink hrest ih =>
    refine .into (h.directories _ hdirectory) hname (fun target hfound => ?_) (ih hd)
    -- what is gone into was a directory, and still is
    have hnext : fs₀.find? (here ++ [name]) = some .directory := by
      by_cases hnil : rest = []
      · subst hnil
        cases hrest
        exact hd
      · exact hrest.directory_of_ne_nil hnil
    rw [h.directories _ hnext] at hfound
    cases hfound
  | kept _ _ hlink =>
    rw [hlink] at hd
    cases hd
  | @through links here d name target rest hdirectory hname hlink hfollow hrest ih =>
    refine .through (h.directories _ hdirectory) hname (h.links _ target hlink ?_) hfollow (ih hd)
    rw [LinksToDirectory, List.dropLast_concat]
    by_cases hnil : rest = []
    · have hyes : follow = true := hfollow.resolve_left fun hne => hne hnil
      rw [hnil, List.append_nil, hyes] at hrest
      exact ⟨links, d, hrest, hd⟩
    · obtain ⟨links', mid, hfront, hback⟩ := hrest.split hnil
      exact ⟨links, mid, hfront, hback.directory_of_ne_nil hnil⟩

theorem locate (h : fs₀.Grounds fs) {p : Path} (hlocate : fs₀.locate p = .ok d) (hd : fs₀.find? d = some .directory) :
    fs.locate p = .ok d := by
  rw [locate_eq_ok_iff] at hlocate ⊢
  rw [start_congr h.here]
  exact h.leads hlocate hd

/-- A path that was itself that of a directory still is. -/
theorem locateLink (h : fs₀.Grounds fs) {p : Path} (hlocate : fs₀.locateLink p = .ok d)
    (hd : fs₀.find? d = some .directory) : fs.locateLink p = .ok d := by
  rw [locateLink_eq_ok_iff] at hlocate ⊢
  rw [start_congr h.here]
  exact h.leads hlocate hd

/-- The last name of a path stands where it stood, or would stand there. -/
theorem locateLink_child (h : fs₀.Grounds fs) {p : Path} {name : String} (hname : name ≠ "..")
    (hlocate : fs₀.locateLink (p.child name) = .ok l) : fs.locateLink (p.child name) = .ok l := by
  rw [locateLink_eq_ok_iff] at hlocate ⊢
  obtain ⟨mid, hfront, hmid, ⟨hup, -⟩ | ⟨-, rfl⟩⟩ := Leads.concat_inv hlocate
  · exact absurd hup hname
  · rw [start_congr h.here]
    exact (h.leads hfront hmid).concat_own (h.directories mid hmid) hname

/-- An entry is removed that is no directory, and was no link. -/
theorem erase (h : fs₀.Grounds fs) (hgone : fs.find? gone ≠ some .directory)
    (hlink : ∀ target, fs₀.find? gone ≠ some (.link target)) : fs₀.Grounds (fs.erase gone) where
  here := h.here
  directories l hl := by
    rw [find?_erase_of_ne fs]
    · exact h.directories l hl
    · rintro rfl
      exact hgone (h.directories l hl)
  links l target hl hlead := by
    rw [find?_erase_of_ne fs]
    · exact h.links l target hl hlead
    · rintro rfl
      exact hlink target hl

/-- The entry of a path is removed that leads to a file. -/
theorem erase_own (h : fs₀.Grounds fs) {p : Path} (hlocate : fs.locate p = .ok l) {bytes : List UInt8}
    {executable : Bool} (hl : fs.find? l = some (.file bytes executable)) (hown : fs.locateLink p = .ok own)
    (hother : fs.find? own ≠ some .directory) : fs₀.Grounds (fs.erase own) where
  here := h.here
  directories l' hl' := by
    rw [find?_erase_of_ne fs]
    · exact h.directories l' hl'
    · rintro rfl
      exact hother (h.directories _ hl')
  links l' target hl' hlead := by
    rw [find?_erase_of_ne fs]
    · exact h.links l' target hl' hlead
    · -- a link to a directory does not lead to a file
      rintro rfl
      obtain ⟨links, d, hleads, hd⟩ := hlead
      obtain ⟨own, hown', hend⟩ := (locate_eq_ok_iff.mp hlocate).exists_own
      obtain rfl := hown'.unique (locateLink_eq_ok_iff.mp hown)
      have hthere := h.links own target hl' ⟨links, d, hleads, hd⟩
      rcases hend with rfl | ⟨target', links', htarget, hleads'⟩
      · rw [hthere] at hl
        cases hl
      · rw [hthere] at htarget
        cases htarget
        obtain rfl := hleads'.unique (h.leads hleads hd)
        rw [h.directories _ hd] at hl
        cases hl

end Grounds

end Stopwatch.Files
