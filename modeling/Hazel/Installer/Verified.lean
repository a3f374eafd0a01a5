import Hazel.Installer.Install
import Mathlib.Data.List.Infix

/-!
# What an installation leaves behind

The end of `hazel::install` once both of its downloads succeed: its exit
status, the installed file and the temporary directory.
-/

namespace Hazel.Installer

open Scripts Script

/-- The files of the machine, whatever has been printed. -/
abbrev Has (files : Files) : Machine → Prop := fun m => m.files = files

abbrev Returns {α : Type} (a : α) (files : Files) : α → Machine → Prop :=
  fun b m => b = a ∧ m.files = files

abbrev Fails (files : Files) : Nat → Machine → Prop :=
  fun status m => status = 1 ∧ m.files = files

section Sequence

variable {α β : Type} {files files' : Files} {p : Script Machine α} {f : α → Script Machine β}
  {a : α}

theorem goes_seq {R : β → Machine → Prop} (hp : Goes (Has files) p (Returns a files'))
    (hf : Goes (Has files') (f a) R) : Goes (Has files) (p >>= f) R :=
  hp.bind fun _ m ⟨hb, hm⟩ => hb ▸ hf m hm

theorem exits_seq {R : Nat → Machine → Prop} (hp : Goes (Has files) p (Returns a files'))
    (hf : Exits (Has files') (f a) R) : Exits (Has files) (p >>= f) R :=
  hp.bind_exits fun _ m ⟨hb, hm⟩ => hb ▸ hf m hm

theorem goes_returns (a : α) : Goes (Has files) (pure a) (Returns a files) :=
  goes_pure fun _ hm => ⟨rfl, hm⟩

theorem goes_assign {p : Script Machine String} {output : String}
    (h : Goes (Has files) p (Returns output files')) :
    Goes (Has files) (assign p) (Returns (stripNewlines output) files') :=
  h.assign.mono fun _ _ ⟨_, hstripped, hprinted, hm⟩ => ⟨hprinted ▸ hstripped, hm⟩

theorem exits_assign {p : Script Machine String} (h : Exits (Has files) p (Fails files')) :
    Exits (Has files) (assign p) (Fails files') := by
  refine Exits.assign fun m hm => ?_
  obtain ⟨status, m', hrun, hstatus, hm'⟩ := h m hm
  exact ⟨status, m', hrun, by omega, hstatus, hm'⟩

end Sequence

section Commands

variable {files : Files} (host : Host)

theorem goes_say (line : String) : Goes (Has files) (say line) (Returns () files) :=
  goes_modify fun _ hm => ⟨rfl, hm⟩

theorem exits_fatal {α : Type} (text : String) :
    Exits (Has files) (fatal text : Script Machine α) (Fails files) :=
  exits_seq (goes_say _) (exits_exit fun _ hm => ⟨rfl, hm⟩)

/-- `mv` and `rm` succeed. -/
structure Host.Reliable (host : Host) : Prop where
  mv : ∀ files dest, host.mv files dest = .ok ()
  rm : ∀ files, host.rm files = .ok ()

theorem goes_removeTmpdir (hhost : host.Reliable) (tmpdir : String) :
    Goes (Has files) (removeTmpdir host tmpdir) (Returns () { files with tmpdir := none }) := by
  refine goes_get.bind fun m => ?_
  rintro m' ⟨rfl, hm⟩
  rw [hhost.rm]
  exact goes_modify (fun _ hm => ⟨rfl, hm ▸ rfl⟩) m hm

def osName : Option String :=
  if host.unameS = "Darwin" then some "darwin"
  else if host.unameS = "Linux" then some "linux"
  else none

def archName : Option String :=
  if host.unameM = "x86_64" ∨ host.unameM = "amd64" then some "x86_64"
  else if host.unameM = "aarch64" ∨ host.unameM = "arm64" then some "arm64"
  else none

/-- `p` prints `name`, or fails when there is none. -/
def Prints (p : Script Machine String) (name : Option String) : Prop :=
  (∀ n ∈ name, stripNewlines n = n ∧ ∀ files, Goes (Has files) p (Returns n files)) ∧
    (name = none → ∀ files, Exits (Has files) p (Fails files))

theorem os_prints : Prints (os host) (osName host) := by
  unfold Prints os osName
  split_ifs with hdarwin hlinux
  · exact ⟨fun n hn => Option.some.inj hn ▸ ⟨by decide, fun _ => goes_returns _⟩, nofun⟩
  · exact ⟨fun n hn => Option.some.inj hn ▸ ⟨by decide, fun _ => goes_returns _⟩, nofun⟩
  · exact ⟨nofun, fun _ _ => exits_seq (goes_say _) (exits_exit fun _ hm => ⟨rfl, hm⟩)⟩

theorem arch_prints : Prints (arch host) (archName host) := by
  unfold Prints arch archName
  split_ifs with hx86 harm
  · exact ⟨fun n hn => Option.some.inj hn ▸ ⟨by decide, fun _ => goes_returns _⟩, nofun⟩
  · exact ⟨fun n hn => Option.some.inj hn ▸ ⟨by decide, fun _ => goes_returns _⟩, nofun⟩
  · exact ⟨nofun, fun _ _ => exits_seq (goes_say _) (exits_exit fun _ hm => ⟨rfl, hm⟩)⟩

theorem Prints.assignAnyway {p : Script Machine String} {name : Option String}
    (h : Prints p name) : Goes (Has files) (assignAnyway p) (Returns (name.getD "") files) := by
  cases name with
  | some n =>
    obtain ⟨hstrip, hgoes⟩ := h.1 n rfl
    exact (hgoes files).assignAnyway.mono fun _ _ ⟨_, hstripped, hprinted, hm⟩ =>
      ⟨by rw [hstripped, hprinted, hstrip, Option.getD_some], hm⟩
  | none =>
    exact (h.2 rfl files).assignAnyway.mono fun _ _ ⟨hempty, _, _, hm⟩ => ⟨hempty, hm⟩

theorem Prints.assign {p : Script Machine String} {name : String} (h : Prints p (some name)) :
    Goes (Has files) (assign p) (Returns name files) := by
  obtain ⟨hstrip, hgoes⟩ := h.1 name rfl
  exact hstrip ▸ goes_assign (hgoes files)

/-- The address of an artifact, as the substitution assigns it. -/
def artifactAddress (version extension : String) : String :=
  stripNewlines ("https://artifacts.noelware.org/hazel/" ++ version ++ "/hazel-" ++
    (osName host).getD "" ++ "-" ++ (archName host).getD "" ++ extension)

theorem goes_artifactUrl (version extension : String) :
    Goes (Has files) (assign (artifactUrl host version extension))
      (Returns (artifactAddress host version extension) files) :=
  goes_assign (goes_seq (arch_prints host).assignAnyway
    (goes_seq (os_prints host).assignAnyway (goes_returns _)))

/-- The name of the downloaded file. -/
def tmplocName : String := "hazel-" ++ (osName host).getD "" ++ "-" ++ (archName host).getD ""

theorem goes_binaryName {arch : String} (harch : archName host = some arch) :
    Goes (Has files) (binaryName host) (Returns (tmplocName host) files) := by
  have hprints : Prints (Installer.arch host) (some arch) := harch ▸ arch_prints host
  rw [tmplocName, harch, Option.getD_some]
  exact goes_seq (os_prints host).assignAnyway (goes_seq hprints.assign (goes_returns _))

/-- What the download of an address prints. Only curl can print it. -/
def fetched (url : String) : Option String :=
  if host.commandExists "curl" then host.curlFetch url else none

theorem goes_fetch {url text : String} (h : fetched host url = some text) :
    Goes (Has files) (fetch host url) (Returns text files) := by
  unfold fetched at h
  unfold fetch
  split_ifs at h ⊢ with hcurl
  rw [h]
  exact goes_returns _

/-- What the download of an address saves, with the first command there is. -/
def saved (url : String) : Option Bytes :=
  if host.commandExists "curl" then host.curl url
  else if host.commandExists "wget" then host.wget url
  else none

theorem goes_saveTmploc (contents : Bytes) : Goes (Has files) (saveTmploc contents)
    (Returns () { files with tmpdir := some ⟨some contents⟩ }) :=
  goes_modify fun _ hm => ⟨rfl, hm ▸ rfl⟩

theorem goes_download {url : String} {contents : Bytes} (h : saved host url = some contents)
    (loc : String) : Goes (Has files) (download host url loc)
      (Returns () { files with tmpdir := some ⟨some contents⟩ }) := by
  unfold saved at h
  unfold download
  split_ifs at h ⊢ with hcurl hwget
  · rw [h]
    exact goes_saveTmploc _
  · rw [h]
    exact goes_saveTmploc _

theorem goes_mktemp {dir : String} (h : host.mktemp = .ok dir) :
    Goes (Has files) (mktemp host) (Returns dir { files with tmpdir := some ⟨none⟩ }) := by
  unfold mktemp
  rw [h]
  exact goes_seq (goes_modify fun _ hm => ⟨rfl, hm ▸ rfl⟩) (goes_returns _)

theorem goes_options {args : List String} {o : Options}
    (h : parseOptions Options.default args = .ok o) :
    Goes (Has files) (options args) (Returns o files) := by
  unfold options
  rw [h]
  exact goes_returns _

/-- The version to install: the given one, or what the server says is latest. -/
def resolvedVersion (o : Options) : Option String :=
  if o.version = "latest" then
    (fetched host versionsUrl).bind fun versions =>
      match host.jqLatestVersion versions with
      | .ok version => some (stripNewlines (String.ofList (version.toList.filter (· ≠ '"'))))
      | .error _ => none
  else some o.version

theorem goes_resolveVersion {o : Options} {version : String}
    (h : resolvedVersion host o = some version) :
    Goes (Has files) (resolveVersion host o) (Returns version files) := by
  unfold resolvedVersion at h
  unfold resolveVersion
  split_ifs at h ⊢ with hlatest
  · obtain ⟨versions, hversions, hjq⟩ := Option.bind_eq_some_iff.mp h
    have hlatestVersion : Goes (Has files)
        (assign (do latestVersion host (← fetch host versionsUrl))) (Returns version files) := by
      cases hprinted : host.jqLatestVersion versions with
      | error status => simp [hprinted] at hjq
      | ok printed =>
        simp only [hprinted, Option.some.injEq] at hjq
        refine hjq ▸ goes_assign (goes_seq (goes_fetch host hversions) ?_)
        rw [latestVersion, hprinted]
        exact goes_returns _
    exact goes_seq (goes_say _) (goes_seq hlatestVersion (goes_seq (goes_say _) (goes_returns _)))
  · exact Option.some.inj h ▸ goes_returns _

end Commands

section Blocks

variable (host : Host) {fs : String → Option Node} {bytes : Bytes}

theorem Digest.stripNewlines (d : Digest) : Script.stripNewlines d.text = d.text := by
  refine stripNewlines_eq_self fun hnewline => ?_
  exact absurd (d.hexadecimal _ hnewline) (by decide)

/-- The files after the download of `bytes`. -/
def downloaded (fs : String → Option Node) (bytes : Bytes) : Files := ⟨fs, some ⟨some bytes⟩⟩

theorem goes_digest (sum : Bytes → Digest) : Goes (Has (downloaded fs bytes)) (assign (digest sum))
    (Returns (sum bytes).text (downloaded fs bytes)) := by
  refine (sum bytes).stripNewlines ▸ goes_assign ?_
  refine goes_get.bind fun m => ?_
  rintro m' ⟨rfl, hm⟩
  rw [show m.files = downloaded fs bytes from hm]
  exact goes_returns _ m hm

/-- The file has been moved away, so there is nothing to hash. -/
theorem exits_digest (sum : Bytes → Digest) :
    Exits (Has ⟨fs, some ⟨none⟩⟩) (assign (digest sum)) (Fails ⟨fs, some ⟨none⟩⟩) := by
  refine exits_assign (goes_get.bind_exits fun m => ?_)
  rintro m' ⟨rfl, hm⟩
  rw [show m.files = ⟨fs, some ⟨none⟩⟩ from hm]
  exact exits_exit (fun _ hm => ⟨rfl, hm⟩) m hm

/-- What a mismatch prints before it cleans up. -/
theorem exits_report {files : Files} {p : Script Machine Unit} {R : Nat → Machine → Prop}
    (binary server : String) (h : Exits (Has files) p R) :
    Exits (Has files) (do
      error "failed to compute checksum for `hazel` binary"
      error rule
      error "generated by system:"
      error binary
      error rule
      error "generated by artifacts server:"
      error server
      p) R :=
  exits_seq (goes_say _) <| exits_seq (goes_say _) <| exits_seq (goes_say _) <|
    exits_seq (goes_say _) <| exits_seq (goes_say _) <| exits_seq (goes_say _) <|
    exits_seq (goes_say _) h

theorem exits_mismatch (hhost : host.Reliable) {files : Files} (tmpdir binary server : String) :
    Exits (Has files) (mismatch host tmpdir binary server) (Fails { files with tmpdir := none }) :=
  exits_report binary server (exits_seq (goes_removeTmpdir host hhost tmpdir) (exits_fatal _))

theorem goes_compare {files : Files} {binary server : String}
    (h : host.grep files binary server = 0) (tmpdir : String) :
    Goes (Has files) (compare host tmpdir binary server) (Returns () files) := by
  refine goes_get.bind fun m => ?_
  rintro m' ⟨rfl, hm⟩
  rw [if_neg (by rw [hm, h]; decide)]
  exact goes_returns _ m hm

theorem exits_compare {files : Files} {binary server tmpdir : String}
    (h : host.grep files binary server ≠ 0) {R : Nat → Machine → Prop}
    (hmismatch : Exits (Has files) (mismatch host tmpdir binary server) R) :
    Exits (Has files) (compare host tmpdir binary server) R := by
  refine goes_get.bind_exits fun m => ?_
  rintro m' ⟨rfl, hm⟩
  rw [if_pos (by rwa [hm])]
  exact hmismatch m hm

/-- The files after the download has been moved. -/
def installed (fs : String → Option Node) (dest name : String) (bytes : Bytes) : Files :=
  moved fs dest name (some (.file bytes)) none

theorem goes_mv {dest : String} (hmv : host.mv (downloaded fs bytes) dest = .ok ())
    (name : String) : Goes (Has (downloaded fs bytes)) (mv host dest name)
      (Returns () (installed fs dest name bytes)) := by
  refine goes_get.bind fun m => ?_
  rintro m' ⟨rfl, hm⟩
  rw [show m.files = downloaded fs bytes from hm]
  simp only [downloaded] at hmv ⊢
  rw [hmv]
  exact goes_modify (fun _ hm => ⟨rfl, by rw [hm]; rfl⟩) m hm

variable {o : Options} {url text : String} (htext : fetched host url = some text)
  (sum : Bytes → Digest) (tmpdir name : String)
include htext

theorem goes_verify
    (hgrep : host.grep (downloaded fs bytes) (sum bytes).text (stripNewlines text) = 0)
    (hmv : host.mv (downloaded fs bytes) o.dest = .ok ()) :
    Goes (Has (downloaded fs bytes)) (verify host sum o url tmpdir name)
      (Returns () (installed fs o.dest name bytes)) := by
  refine goes_seq (goes_digest sum) ?_
  refine goes_seq (goes_assign (goes_fetch host htext)) ?_
  refine goes_seq (goes_compare host hgrep _) ?_
  exact goes_seq (goes_mv host hmv name) (goes_say _)

theorem exits_verify
    (hgrep : host.grep (downloaded fs bytes) (sum bytes).text (stripNewlines text) ≠ 0)
    {R : Nat → Machine → Prop} (hmismatch : Exits (Has (downloaded fs bytes))
      (mismatch host tmpdir (sum bytes).text (stripNewlines text)) R) :
    Exits (Has (downloaded fs bytes)) (verify host sum o url tmpdir name) R := by
  refine exits_seq (goes_digest sum) ?_
  refine exits_seq (goes_assign (goes_fetch host htext)) ?_
  exact (exits_compare host hgrep hmismatch).bind

omit htext

/-- A block after the file has been moved. -/
theorem exits_verify_moved :
    Exits (Has ⟨fs, some ⟨none⟩⟩) (verify host sum o url tmpdir name)
      (Fails ⟨fs, some ⟨none⟩⟩) :=
  (exits_digest sum).bind

end Blocks

section Install

/-- The arguments are valid, and both downloads of `install` succeed. -/
structure Downloads (host : Host) (args : List String) (o : Options) (bytes : Bytes)
    (text : String) : Prop where
  options : parseOptions Options.default args = .ok o
  arch : ∃ arch, archName host = some arch
  mktemp : ∃ dir, host.mktemp = .ok dir
  artifacts : ∃ version, resolvedVersion host o = some version ∧
    saved host (artifactAddress host version "") = some bytes ∧
    fetched host (artifactAddress host version ".sha256") = some text

/-- `grep` exits with success on the digest of `bytes`, with `text` as its file
argument. -/
def GrepSucceeds (host : Host) (fs : String → Option Node) (bytes : Bytes) (text : String) :
    Prop :=
  host.grep (downloaded fs bytes) (host.sha256sum bytes).text (stripNewlines text) = 0

instance (host : Host) (fs : String → Option Node) (bytes : Bytes) (text : String) :
    Decidable (GrepSucceeds host fs bytes text) :=
  inferInstanceAs (Decidable (_ = 0))

variable {host : Host} {args : List String} {o : Options} {bytes : Bytes} {text : String}

theorem goes_skip {files : Files} {command url : String} (h : ¬ host.commandExists command = true)
    (sum : Bytes → Digest) (tmpdir name : String) :
    Goes (Has files) (verifyIfExists host command sum o url tmpdir name) (Returns () files) := by
  rw [verifyIfExists, if_neg h]
  exact goes_returns _

/-- The files that `install` leaves once both downloads have succeeded. -/
def filesAfter (host : Host) (o : Options) (bytes : Bytes) (text : String)
    (fs : String → Option Node) : Files :=
  if GrepSucceeds host fs bytes text then
    { installed fs o.dest (tmplocName host) bytes with
      tmpdir := if host.commandExists "sha256sum" = true ∧ host.commandExists "shasum" = true
        then some ⟨none⟩ else none }
  else ⟨fs, none⟩

variable (hhost : host.Reliable) (hsum : host.shasum = host.sha256sum)
  (htool : host.commandExists "sha256sum" = true ∨ host.commandExists "shasum" = true)
include hhost hsum htool

theorem exits_verifyAll_of_not_grep {url : String} (htext : fetched host url = some text)
    {fs : String → Option Node} (tmpdir name : String)
    (hgrep : ¬ GrepSucceeds host fs bytes text) :
    Exits (Has (downloaded fs bytes)) (verifyAll host o url tmpdir name) (Fails ⟨fs, none⟩) := by
  have hverify : Exits (Has (downloaded fs bytes))
      (verify host host.sha256sum o url tmpdir name) (Fails ⟨fs, none⟩) :=
    exits_verify host htext _ tmpdir name hgrep (exits_mismatch host hhost _ _ _)
  by_cases hsha : host.commandExists "sha256sum" = true
  · rw [verifyAll, verifyIfExists, if_pos hsha]
    exact hverify.bind
  · have hshasum := htool.resolve_left hsha
    refine exits_seq (goes_skip hsha _ _ _) ?_
    rw [verifyIfExists, if_pos hshasum, hsum]
    exact hverify.bind

/-- A verified file is installed. Then a second hash tool has nothing left to
hash, and without one the closing error of `install` is reached. -/
theorem exits_verifyAll_of_grep {url : String} (htext : fetched host url = some text)
    {fs : String → Option Node} (tmpdir name : String)
    (hgrep : GrepSucceeds host fs bytes text) :
    Exits (Has (downloaded fs bytes)) (verifyAll host o url tmpdir name)
      (Fails { installed fs o.dest name bytes with
        tmpdir := if host.commandExists "sha256sum" = true ∧ host.commandExists "shasum" = true
          then some ⟨none⟩ else none }) := by
  have hverify : Goes (Has (downloaded fs bytes))
      (verify host host.sha256sum o url tmpdir name)
      (Returns () (installed fs o.dest name bytes)) :=
    goes_verify host htext _ tmpdir name hgrep (hhost.mv _ _)
  by_cases hsha : host.commandExists "sha256sum" = true
  · by_cases hshasum : host.commandExists "shasum" = true
    -- the second block finds no file to hash, and `set -e` ends the script there
    · rw [verifyAll, verifyIfExists, if_pos hsha, verifyIfExists, if_pos hshasum,
        if_pos ⟨hsha, hshasum⟩]
      exact exits_seq hverify (exits_verify_moved host _ tmpdir name).bind
    · rw [verifyAll, verifyIfExists, if_pos hsha, if_neg fun h => hshasum h.2]
      refine exits_seq hverify ?_
      refine exits_seq (goes_skip hshasum _ _ _) ?_
      exact exits_seq (goes_removeTmpdir host hhost tmpdir) (exits_fatal _)
  · have hshasum := htool.resolve_left hsha
    rw [if_neg fun h => hsha h.1]
    refine exits_seq (goes_skip hsha _ _ _) ?_
    rw [verifyIfExists, if_pos hshasum, hsum]
    refine exits_seq hverify ?_
    exact exits_seq (goes_removeTmpdir host hhost tmpdir) (exits_fatal _)

/-- After both downloads the installer exits with status 1, whichever way the
verification goes. -/
theorem exits_install (h : Downloads host args o bytes text) (files : Files) :
    Exits (Has files) (install host args) (Fails (filesAfter host o bytes text files.fs)) := by
  obtain ⟨version, hversion, hsaved, htext⟩ := h.artifacts
  obtain ⟨arch, harch⟩ := h.arch
  obtain ⟨dir, hmktemp⟩ := h.mktemp
  have hend : Exits (Has (downloaded files.fs bytes))
      (verifyAll host o (artifactAddress host version ".sha256") (stripNewlines dir)
        (tmplocName host))
      (Fails (filesAfter host o bytes text files.fs)) := by
    unfold filesAfter
    by_cases hgrep : GrepSucceeds host files.fs bytes text
    · rw [if_pos hgrep]
      exact exits_verifyAll_of_grep hhost hsum htool htext _ _ hgrep
    · rw [if_neg hgrep]
      exact exits_verifyAll_of_not_grep hhost hsum htool htext _ _ hgrep
  refine exits_seq (goes_options h.options) ?_
  refine exits_seq (goes_resolveVersion host hversion) ?_
  refine exits_seq (goes_artifactUrl host version "") ?_
  refine exits_seq (goes_artifactUrl host version ".sha256") ?_
  refine exits_seq (goes_say _) (exits_seq (goes_say _) (exits_seq (goes_say _) ?_))
  refine exits_seq (goes_assign (goes_mktemp host hmktemp)) ?_
  refine exits_seq (goes_binaryName host harch) ?_
  exact exits_seq (goes_download host hsaved _) hend

end Install

section EndToEnd

/-- The digest occurs in the checksums text. -/
def OccursIn (digest : Digest) (text : String) : Prop := digest.text.toList <:+: text.toList

/-- The installed file, or the directory in its place, is as it was. -/
def Unchanged (dest : String) (before after : Files) : Prop :=
  ∀ below : String, below = "" ∨ below.toList.head? = some '/' →
    after.fs (dest ++ below) = before.fs (dest ++ below)

/-- What an installation is for: a file whose digest is among the checksums is
installed and reported as such, any other file is rejected and changes nothing,
and the temporary directory is gone. -/
structure Verified (host : Host) (o : Options) (bytes : Bytes) (text : String)
    (before after : Files) (status : Nat) : Prop where
  accepted : OccursIn (host.sha256sum bytes) text →
    status = 0 ∧ after.fs o.dest = some (.file bytes)
  rejected : ¬ OccursIn (host.sha256sum bytes) text →
    status ≠ 0 ∧ Unchanged o.dest before after
  cleaned : after.tmpdir = none

/-- Moving a file to where it already is changes nothing. -/
theorem unchanged_moved_iff {files after : Files} {dest name : String} {bytes : Bytes}
    (hafter : after.fs = (installed files.fs dest name bytes).fs) :
    Unchanged dest files after ↔ files.fs (mvTarget files.fs dest name) = some (.file bytes) := by
  constructor
  · intro h
    have htarget : ∃ below : String, (below = "" ∨ below.toList.head? = some '/') ∧
        mvTarget files.fs dest name = dest ++ below := by
      unfold mvTarget
      split_ifs
      · exact ⟨"/" ++ name, .inr (by rw [String.toList_append]; rfl), String.append_assoc⟩
      · exact ⟨"", .inl rfl, String.append_empty.symm⟩
    obtain ⟨below, hbelow, heq⟩ := htarget
    rw [heq, ← h below hbelow, hafter, ← heq]
    exact Function.update_self ..
  · intro h below _
    rw [hafter, installed, moved, ← h, Function.update_eq_self]

variable {host : Host} {args : List String} {o : Options} {bytes : Bytes} {text : String}

/-- The installation is verified end to end exactly when the digest is not among
the checksums, and `grep` does not succeed on them as a file, or the one hash
tool there is leads to installing what was installed already. -/
theorem install_verified_iff (hhost : host.Reliable) (hsum : host.shasum = host.sha256sum)
    (htool : host.commandExists "sha256sum" = true ∨ host.commandExists "shasum" = true)
    (h : Downloads host args o bytes text) (before : Machine) :
    Verified host o bytes text before.files (install host args before).2.files
        (install host args before).1.status ↔
      ¬ OccursIn (host.sha256sum bytes) text ∧
        (¬ GrepSucceeds host before.files.fs bytes text ∨
          (¬ (host.commandExists "sha256sum" = true ∧ host.commandExists "shasum" = true) ∧
            before.files.fs (mvTarget before.files.fs o.dest (tmplocName host)) =
              some (.file bytes))) := by
  obtain ⟨status, after, hrun, rfl, hafter⟩ := exits_install hhost hsum htool h before.files
    before rfl
  rw [hrun]
  change Verified host o bytes text before.files after.files 1 ↔ _
  rw [hafter]
  unfold filesAfter
  by_cases hgrep : GrepSucceeds host before.files.fs bytes text
  · rw [if_pos hgrep]
    by_cases htools : host.commandExists "sha256sum" = true ∧ host.commandExists "shasum" = true
    -- with both tools the temporary directory stays
    · rw [if_pos htools]
      refine iff_of_false (fun hverified => nomatch hverified.cleaned) ?_
      rintro ⟨-, hnot | ⟨hnot, -⟩⟩
      · exact hnot hgrep
      · exact hnot htools
    · rw [if_neg htools]
      constructor
      · intro hverified
        -- status 1 is never an acceptance
        have hoccurs : ¬ OccursIn (host.sha256sum bytes) text := fun hoccurs =>
          absurd (hverified.accepted hoccurs).1 (by decide)
        exact ⟨hoccurs, .inr ⟨htools,
          (unchanged_moved_iff rfl).mp (hverified.rejected hoccurs).2⟩⟩
      · rintro ⟨hoccurs, hnot | ⟨-, hsame⟩⟩
        · exact absurd hgrep hnot
        · exact ⟨fun h => absurd h hoccurs, fun _ => ⟨by decide,
            (unchanged_moved_iff rfl).mpr hsame⟩, rfl⟩
  · rw [if_neg hgrep]
    constructor
    · intro hverified
      exact ⟨fun hoccurs => absurd (hverified.accepted hoccurs).1 (by decide), .inl hgrep⟩
    · rintro ⟨hoccurs, -⟩
      exact ⟨fun h => absurd h hoccurs, fun _ => ⟨by decide, fun _ _ => rfl⟩, rfl⟩

/-- A digest of zeros. -/
def sampleDigest : Digest where
  text := String.ofList (List.replicate 64 '0')
  length := by decide
  hexadecimal c hc := by
    rw [String.toList_ofList] at hc
    rw [List.eq_of_mem_replicate hc]
    decide

/-- The checksums that list `sampleDigest`. -/
def sampleChecksums : String := sampleDigest.text ++ "  hazel-linux-x86_64\n"

/-- A Linux machine with curl and `sha256sum`, where the server answers every
request for checksums with `checksums`. -/
def sampleHost (checksums : String) : Host where
  unameS := "Linux"
  unameM := "x86_64"
  commandExists command := command ∈ ["curl", "sha256sum"]
  curl _ := some [127, 69, 76, 70]
  wget _ := none
  curlFetch _ := some checksums
  jqLatestVersion _ := .ok "\"2.0.0\"\n"
  mktemp := .ok "/tmp/tmp.hazel\n"
  sha256sum _ := sampleDigest
  shasum _ := sampleDigest
  grep files pattern file :=
    match files.fs file with
    | some (.file contents) =>
      if (pattern.toList.map fun c => UInt8.ofNat c.toNat) <:+: contents then 0 else 1
    | _ => 2
  mv _ _ := .ok ()
  rm _ := .ok ()

theorem sampleHost_reliable (checksums : String) : (sampleHost checksums).Reliable :=
  ⟨fun _ _ => rfl, fun _ => rfl⟩

theorem sampleHost_hasTool (checksums : String) :
    (sampleHost checksums).commandExists "sha256sum" = true := by
  simp [sampleHost]

/-- A machine where hazel is not installed. -/
def sampleMachine : Machine where
  files := ⟨fun path => if path = "/usr/local/bin" then some .dir else none, none⟩
  output := []

theorem sampleHost_downloads (checksums : String) : Downloads (sampleHost checksums)
    ["--version", "2.0.0"] { Options.default with version := "2.0.0" } [127, 69, 76, 70]
    checksums :=
  ⟨rfl, ⟨"x86_64", rfl⟩, ⟨_, rfl⟩, ⟨"2.0.0", rfl, rfl, rfl⟩⟩

/-- Checksums that list a file with another digest. -/
def otherChecksums : String := String.ofList (List.replicate 64 '1') ++ "  hazel-linux-arm64\n"

theorem install_verified_other :
    let host := sampleHost otherChecksums
    Verified host { Options.default with version := "2.0.0" } [127, 69, 76, 70] otherChecksums
      sampleMachine.files (install host ["--version", "2.0.0"] sampleMachine).2.files
      (install host ["--version", "2.0.0"] sampleMachine).1.status := by
  intro host
  have hother : ¬ OccursIn (host.sha256sum [127, 69, 76, 70]) otherChecksums := by
    intro hoccurs
    have hzero : '0' ∈ otherChecksums.toList := hoccurs.subset (by decide)
    exact absurd hzero (by decide)
  have hgrep : ¬ GrepSucceeds host sampleMachine.files.fs [127, 69, 76, 70] otherChecksums := by
    decide
  exact (install_verified_iff (sampleHost_reliable otherChecksums) rfl
    (.inl (sampleHost_hasTool otherChecksums)) (sampleHost_downloads otherChecksums)
    sampleMachine).mpr ⟨hother, .inl hgrep⟩

/-- A file whose digest is listed is refused. -/
theorem install_refuses_listed :
    OccursIn sampleDigest sampleChecksums ∧
      (install (sampleHost sampleChecksums) ["--version", "2.0.0"] sampleMachine).1.status = 1 ∧
      (install (sampleHost sampleChecksums) ["--version", "2.0.0"] sampleMachine).2.files.fs
        "/usr/local/bin/hazel" = none := by
  have hoccurs : OccursIn sampleDigest sampleChecksums := by
    rw [OccursIn, sampleChecksums, String.toList_append]
    exact (List.prefix_append _ _).isInfix
  have hgrep : ¬ GrepSucceeds (sampleHost sampleChecksums) sampleMachine.files.fs
      [127, 69, 76, 70] sampleChecksums := by decide
  obtain ⟨status, after, hrun, rfl, hafter⟩ :=
    exits_install (sampleHost_reliable sampleChecksums) rfl (.inl (sampleHost_hasTool _))
      (sampleHost_downloads sampleChecksums) sampleMachine.files sampleMachine rfl
  rw [hrun]
  refine ⟨hoccurs, rfl, ?_⟩
  change after.files.fs "/usr/local/bin/hazel" = none
  rw [hafter, filesAfter, if_neg hgrep]
  decide

end EndToEnd

end Hazel.Installer
