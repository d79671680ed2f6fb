import BrBox.Mkimage.RoundTrip
import Mathlib.Data.List.Infix

/-!
# Firmware update of the MIPS boxes

`mips-update.sh` takes the signature and the image of the board out of a multi-file
image, lets `openssl` verify the image without its header, strips the header once more
behind some checks and hands the result to `sysupgrade`.

Every call of a tool stands in `Tools` with what can go wrong there.  Each call is made
at most once in a run, so the calls are told apart by their place in the script.  A path
is one word, and the words the shell expands name no file of the working directory.
`onlySigned_iff` says when only signed bytes are flashed.
-/

namespace BrBox
namespace Mips

open ByteOrder
open CText
open CxxText
open Mkimage

section Tools

/-- The calls of `mktemp`, by the variable that takes the name. -/
inductive MktempCall
  | headerFile
  | sigFileUimg
  | sigFile
  | subImage
  | subImageRaw
  | imageFile
  | tmpFile
deriving DecidableEq, Repr

/-- The calls of `brbox-mkimage`. -/
inductive MkimageCall
  | probe
  | extractSig
  | extractSub
  | multiSub
  | singleSub
  | listSub
  | countSub
  | nameSub
deriving DecidableEq, Repr

/-- The calls of `dd`, by the variable of their output. -/
inductive DdCall
  | sigFile
  | subImageRaw
  | imageFile
deriving DecidableEq, Repr

/-- The machine and what its tools do.  A `dd` that fails leaves a number of bytes; the
copy of `mkimage -X` does not look at its writes, so a full disk leaves a number of
bytes there too, with status 0.  `signed` are the bytes and signatures that were made
with the private key. -/
structure Tools where
  endian : Endian
  mktemp : MktempCall → Bool
  mkimage : MkimageCall → Bool
  room : MkimageCall → Option Nat
  dd : DdCall → Option Nat
  sysupgradeTest : Bool
  signed : Bytes → Bytes → Bool
  stdin : Bytes

namespace Tools

variable (t : Tools)

/-- The device has 32 bits. -/
def device : Machine :=
  { endian := t.endian, sizeofLong := 4, word := Or.inl rfl }

/-- What a write leaves if it has room for a number of bytes, or for all. -/
def written (room : Option Nat) (bytes : Bytes) : Bytes :=
  match room with
  | none => bytes
  | some n => bytes.take n

/-- `dd bs=64 skip=1`: the output and whether the status is 0.  Without a name from
`mktemp` there is no output file. -/
def dd64 (call : DdCall) (out : MktempCall) (input : Bytes) : Bytes × Bool :=
  if t.mktemp out then
    (written (t.dd call) (input.drop 64), (t.dd call).isNone)
  else
    ([], false)

/-- What `grep "Multi-File"` looks for in the text of -h: the name and the type are the
lines that can have it. -/
def hasMultiFile (hdr : Bytes) : Bool :=
  ihType hdr = ihTypeMulti ∨ text "Multi-File" <:+: cString (ihName hdr)

/-- The status of `mkimage -h 1`; a file that is too short for a header is no failure. -/
def headerStatus (file : Bytes) : Bool :=
  file.length < headerSize ∨ checkHeader (file.take headerSize)

/-- `IsItMultiMkFile`; `out` is the file for the text of -h. -/
def isItMultiMkFile (call : MkimageCall) (out : MktempCall) (file : Bytes) : Bool :=
  t.mktemp out ∧ t.mkimage call ∧ headerStatus file ∧
    headerSize ≤ file.length ∧ hasMultiFile (file.take headerSize)

/-- `IsItSingleMkFile`. -/
def isItSingleMkFile (call : MkimageCall) (out : MktempCall) (file : Bytes) : Bool :=
  t.mktemp out ∧ t.mkimage call ∧ headerStatus file ∧
    ¬ (headerSize ≤ file.length ∧ hasMultiFile (file.take headerSize))

/-- `ExtractSubImage`: the output file, or none if it returns 1.  Without a name from
`mktemp` the arguments are short of one and the tool prints its usage. -/
def extractSubImage (call : MkimageCall) (out : MktempCall) (file imageName : Bytes) :
    Option Bytes :=
  if t.mktemp out ∧ t.mkimage call then
    match runExtract t.device file imageName with
    | .copied bytes => some (written (t.room call) bytes)
    | _ => none
  else
    none

/-- The texts of `CheckFileType`. -/
inductive FileType
  | singlMkOk
  | singlMkNok
  | multiMkOk
  | multiMkNok
  | singlBinary
deriving DecidableEq, Repr

/-- `CheckFileType` as `ProcessUpdate` calls it. -/
def checkFileType (file : Bytes) : FileType :=
  if t.isItMultiMkFile .multiSub .tmpFile file then
    match t.mkimage .countSub, runCount t.device file with
    | true, .counted _ => .multiMkOk
    | _, _ => .multiMkNok
  else if t.isItSingleMkFile .singleSub .tmpFile file then
    if t.mkimage .listSub ∧ listImage t.device file = some true then
      .singlMkOk
    else
      .singlMkNok
  else
    .singlBinary

/-- Blanks of the shell and of `awk`. -/
def isBlank (c : Byte) : Bool :=
  c = 32 ∨ c = 9 ∨ c = 10

/-- The words of a text. -/
def shellWords (s : Bytes) : List Bytes :=
  (s.splitOnP isBlank).filter fun w => w ≠ []

/-- What `grep "Image Name:" | awk '{print $4}'` makes of the text of -l. -/
def nameWord (hdr : Bytes) : Bytes :=
  let lines := fields 10 (text "Image Name:   " ++ cString (ihName hdr))
  let found := lines.filter fun line => text "Image Name:" <:+: line
  (found.flatMap shellWords).getD 3 []

/-- `GetImageType`. -/
def getImageName (file : Bytes) : Option Bytes :=
  if t.mkimage .nameSub ∧ listImage t.device file = some true then
    some (nameWord (file.take headerSize))
  else
    none

/-- `BRBOX_IMG` after the three comparisons with the text of the board type file; the
shell takes the newlines off its end. -/
def brboxImg (devType : Bytes) : Bytes :=
  let boardType := (devType.reverse.dropWhile fun c => c = 10).reverse
  if boardType = text "GL_MT300NV2" then
    text "BrBoxGl300N"
  else if boardType = text "GL_AR150" then
    text "BrBoxGlA150"
  else if boardType = text "HLK_RM04" then
    text "BrBoxHlRm04"
  else
    text "unknown"

/-- `ProcessImageType`: the image file, or none if the status is not 0.  An empty word
for the type leaves one argument less. -/
def processImageType (devType file imageName : Bytes) : Option Bytes :=
  if imageName ≠ [] ∧ imageName = brboxImg devType then
    match t.dd64 .imageFile .imageFile file with
    | (bytes, true) => some bytes
    | (_, false) => none
  else
    none

/-- `ProcessUpdate`: the image file, or none if it returns 1. -/
def processUpdate (devType file : Bytes) : Option Bytes :=
  match t.checkFileType file with
  | .singlMkOk =>
      match t.getImageName file with
      | some imageName => t.processImageType devType file imageName
      | none => none
  | _ => none

end Tools

end Tools

section Script

/-- An option of the command line. -/
inductive Opt
  | u (path : Bytes)
  | t
  | h
  | unknown
deriving DecidableEq, Repr

/-- The variables that the options set. -/
structure Args where
  updateFile : Bytes
  testOnly : Bool
  printHelp : Bool
deriving DecidableEq, Repr

/-- The loop over `getopts`. -/
def getopts (opts : List Opt) : Args :=
  opts.foldl
    (fun args opt =>
      match opt with
      | .u path => { args with updateFile := path }
      | .t => { args with testOnly := true }
      | .h => { args with printHelp := true }
      | .unknown => args)
    { updateFile := [], testOnly := false, printHelp := false }

/-- What a run does that matters outside: the bytes whose signature was verified and the
bytes that went to `sysupgrade` without --test. -/
structure Run where
  verified : Option Bytes
  flashed : Option Bytes
deriving DecidableEq, Repr

/-- The script ends before anything is verified. -/
def Run.nothing : Run :=
  { verified := none, flashed := none }

namespace Tools

variable (t : Tools)

/-- The bytes that `openssl dgst` gets: the stripped sub-image, whatever `dd` left of it,
or the standard input if there is no file name. -/
def verifyInput (sub : Bytes) : Bytes :=
  if t.mktemp .subImageRaw then
    (t.dd64 .subImageRaw .subImageRaw sub).1
  else
    t.stdin

/-- The script from the verified sub-image on. -/
def flash (args : Args) (devType sub : Bytes) : Option Bytes :=
  match t.processUpdate devType sub with
  | none => none
  | some image =>
      if t.sysupgradeTest ∧ args.testOnly = false then some image else none

/-- The script from the extracted signature on. -/
def verifyThenFlash (args : Args) (devType update sig : Bytes) : Run :=
  if brboxImg devType = text "unknown" then
    Run.nothing
  else
    match t.extractSubImage .extractSub .subImage update (brboxImg devType) with
    | none => Run.nothing
    | some sub =>
        if t.signed (t.verifyInput sub) sig then
          { verified := some (t.verifyInput sub), flashed := t.flash args devType sub }
        else
          Run.nothing

/-- `mips-update.sh`, with the files that exist. -/
def mipsUpdate (files : Bytes → Option Bytes) (devType : Bytes) (opts : List Opt) : Run :=
  let args := getopts opts
  if args.printHelp ∨ args.updateFile = [] then
    Run.nothing
  else
    match files args.updateFile with
    | none => Run.nothing
    | some update =>
        if t.isItMultiMkFile .probe .headerFile update then
          match t.extractSubImage .extractSig .sigFileUimg update (text "BrBoxSign") with
          | none => Run.nothing
          | some sigUimg =>
              match t.dd64 .sigFile .sigFile sigUimg with
              | (sig, true) => t.verifyThenFlash args devType update sig
              | (_, false) => Run.nothing
        else
          Run.nothing

end Tools

/-- What must hold of a run that flashes an image: the signature of exactly these bytes
was verified, they are the data of a sub-image with the type and the name of the board,
and -t was not given. -/
structure SignedFlash (t : Tools) (files : Bytes → Option Bytes) (devType : Bytes)
    (opts : List Opt) (image : Bytes) : Prop where
  verified : (t.mipsUpdate files devType opts).verified = some image
  signed : ∃ sig, t.signed image sig
  taken : ∃ update sub, files (getopts opts).updateFile = some update ∧
    runExtract t.device update (Tools.brboxImg devType) = .copied sub ∧
    ihType (Tools.written (t.room .extractSub) sub) =
      getImageType (Tools.brboxImg devType) ∧
    Tools.nameWord ((Tools.written (t.room .extractSub) sub).take headerSize) =
      Tools.brboxImg devType ∧
    image = (Tools.written (t.room .extractSub) sub).drop headerSize
  test : Opt.t ∉ opts

/-- Only signed bytes are flashed. -/
def OnlySigned (t : Tools) (files : Bytes → Option Bytes) (devType : Bytes)
    (opts : List Opt) : Prop :=
  ∀ image, (t.mipsUpdate files devType opts).flashed = some image →
    SignedFlash t files devType opts image

/-- The stripped sub-image for `openssl` is complete: `dd`, if it failed, had written
all of it, or, without a file name, the same bytes come from the standard input. -/
def RawComplete (t : Tools) (file : Bytes) : Prop :=
  if t.mktemp .subImageRaw then
    ∀ n, t.dd .subImageRaw = some n → file.length ≤ headerSize + n
  else
    t.stdin = file.drop headerSize

end Script

section Flash

variable {t : Tools} {files : Bytes → Option Bytes} {devType : Bytes} {opts : List Opt}
variable {file image : Bytes}

/-- The bytes that are verified are those behind the header, if they are complete. -/
theorem verifyInput_eq_iff :
    t.verifyInput file = file.drop headerSize ↔ RawComplete t file := by
  unfold RawComplete Tools.verifyInput
  split
  · next hname =>
      simp only [Tools.dd64, hname, if_true]
      cases hdd : t.dd .subImageRaw with
      | none =>
          simp [Tools.written, headerSize]
      | some n =>
          have hall : (file.drop 64).take n = file.drop 64 ↔ file.length ≤ 64 + n := by
            rw [List.take_eq_self_iff, List.length_drop]
            omega
          simpa [Tools.written, headerSize] using hall
  · rfl

/-- The script tests only if it was told so. -/
theorem testOnly_getopts
    (opts : List Opt) (args : Args) :
    (opts.foldl
      (fun args opt =>
        match opt with
        | .u path => { args with updateFile := path }
        | .t => { args with testOnly := true }
        | .h => { args with printHelp := true }
        | .unknown => args)
      args).testOnly = false ↔ args.testOnly = false ∧ Opt.t ∉ opts := by
  induction opts generalizing args with
  | nil =>
      simp
  | cons opt opts ih =>
      rw [List.foldl_cons, ih]
      cases opt <;> simp

/-- What the second strip step makes of the sub-image, and what it was checked for. -/
theorem processUpdate_some
    (himage : t.processUpdate devType file = some image) :
    listImage t.device file = some true ∧
      Tools.nameWord (file.take headerSize) = Tools.brboxImg devType ∧
      image = file.drop headerSize := by
  unfold Tools.processUpdate at himage
  split at himage
  · split at himage
    · next imageName hname =>
        unfold Tools.getImageName at hname
        split at hname
        · next hlist =>
            obtain rfl := Option.some.inj hname
            unfold Tools.processImageType at himage
            split at himage
            · next hboard =>
                refine ⟨hlist.2, hboard.2, ?_⟩
                split at himage
                · next bytes hdd =>
                    obtain rfl := Option.some.inj himage
                    unfold Tools.dd64 at hdd
                    split at hdd
                    · simp only [Prod.mk.injEq, Option.isNone_iff_eq_none] at hdd
                      rw [hdd.2] at hdd
                      exact hdd.1.symm
                    · simp at hdd
                · simp at himage
            · simp at himage
        · simp at hname
    · simp at himage
  · simp at himage

theorem processUpdate_eq
    {imageName : Bytes}
    (htype : t.checkFileType file = .singlMkOk)
    (hname : t.getImageName file = some imageName) :
    t.processUpdate devType file = t.processImageType devType file imageName := by
  simp only [Tools.processUpdate, htype, hname]

/-- A file that -l accepts has a header. -/
theorem length_of_listImage
    {m : Machine}
    (hlist : listImage m file = some true) :
    headerSize ≤ file.length := by
  unfold listImage at hlist
  split at hlist
  · simp at hlist
  · split at hlist
    · simp at hlist
    · omega

theorem extractSubImage_some
    {call : MkimageCall} {out : MktempCall} {update imageName : Bytes}
    (hextract : t.extractSubImage call out update imageName = some file) :
    ∃ sub, runExtract t.device update imageName = .copied sub ∧
      file = Tools.written (t.room call) sub := by
  unfold Tools.extractSubImage at hextract
  split at hextract
  · split at hextract
    · next bytes hcopied =>
        exact ⟨bytes, hcopied, (Option.some.inj hextract).symm⟩
    · simp at hextract
  · simp at hextract

/-- What a part of a file keeps of its type. -/
theorem ihType_written
    {room : Option Nat} {sub : Bytes}
    (hlen : headerSize ≤ (Tools.written room sub).length) :
    ihType (Tools.written room sub) = ihType sub ∧ headerSize ≤ sub.length := by
  cases room with
  | none =>
      exact ⟨rfl, hlen⟩
  | some n =>
      simp only [Tools.written, List.length_take] at hlen ⊢
      refine ⟨?_, by omega⟩
      have h : (sub.take n).take headerSize = sub.take headerSize := by
        rw [List.take_take, Nat.min_eq_left (by omega)]
      rw [ihType_of_take_eq h, ← ihType_of_take_eq rfl]

/-- A run that flashes got through the first part of the script. -/
theorem mipsUpdate_of_flashed
    (hflashed : (t.mipsUpdate files devType opts).flashed = some image) :
    ∃ update sig, files (getopts opts).updateFile = some update ∧
      t.mipsUpdate files devType opts =
        t.verifyThenFlash (getopts opts) devType update sig := by
  unfold Tools.mipsUpdate at hflashed ⊢
  dsimp only at hflashed ⊢
  split at hflashed
  · simp [Run.nothing] at hflashed
  · next hargs =>
      rw [if_neg hargs]
      split at hflashed
      · simp [Run.nothing] at hflashed
      · next update hupdate =>
          split at hflashed
          · next hmulti =>
              rw [if_pos hmulti]
              split at hflashed
              · simp [Run.nothing] at hflashed
              · next sigUimg hsig =>
                  split at hflashed
                  · next sig hdd =>
                      exact ⟨update, sig, hupdate, rfl⟩
                  · simp [Run.nothing] at hflashed
          · simp [Run.nothing] at hflashed

/-- And through the second part. -/
theorem verifyThenFlash_of_flashed
    {args : Args} {update sig : Bytes}
    (hflashed : (t.verifyThenFlash args devType update sig).flashed = some image) :
    ∃ sub, runExtract t.device update (Tools.brboxImg devType) = .copied sub ∧
      t.signed (t.verifyInput (Tools.written (t.room .extractSub) sub)) sig ∧
      (t.verifyThenFlash args devType update sig).verified =
        some (t.verifyInput (Tools.written (t.room .extractSub) sub)) ∧
      t.processUpdate devType (Tools.written (t.room .extractSub) sub) = some image ∧
      args.testOnly = false := by
  unfold Tools.verifyThenFlash at hflashed ⊢
  split at hflashed
  · simp [Run.nothing] at hflashed
  · next hboard =>
      rw [if_neg hboard]
      split at hflashed
      · simp [Run.nothing] at hflashed
      · next file hextract =>
          obtain ⟨sub, hcopied, rfl⟩ := extractSubImage_some hextract
          split at hflashed
          · next hsigned =>
              refine ⟨sub, hcopied, hsigned, ?_, ?_⟩
              · rw [if_pos hsigned]
              · unfold Tools.flash at hflashed
                dsimp only at hflashed
                split at hflashed
                · simp at hflashed
                · next image' himage =>
                    split at hflashed
                    · next htest =>
                        obtain rfl := Option.some.inj hflashed
                        exact ⟨himage, htest.2⟩
                    · simp at hflashed
          · simp [Run.nothing] at hflashed

theorem flash_eq
    {args : Args}
    (hprocess : t.processUpdate devType file = some image)
    (hsysupgrade : t.sysupgradeTest = true)
    (htest : args.testOnly = false) :
    t.flash args devType file = some image := by
  simp [Tools.flash, hprocess, hsysupgrade, htest]

/-- A run in which every step succeeds. -/
theorem verifyThenFlash_eq
    {args : Args} {update sig sub : Bytes}
    (hboard : Tools.brboxImg devType ≠ text "unknown")
    (hsub : t.extractSubImage .extractSub .subImage update (Tools.brboxImg devType) =
      some sub)
    (hsigned : t.signed (t.verifyInput sub) sig = true) :
    t.verifyThenFlash args devType update sig =
      { verified := some (t.verifyInput sub), flashed := t.flash args devType sub } := by
  simp only [Tools.verifyThenFlash, if_neg hboard, hsub, if_pos hsigned]

theorem mipsUpdate_eq
    {update sigUimg sig : Bytes}
    (hhelp : (getopts opts).printHelp = false)
    (hpath : (getopts opts).updateFile ≠ [])
    (hupdate : files (getopts opts).updateFile = some update)
    (hmulti : t.isItMultiMkFile .probe .headerFile update = true)
    (hsig : t.extractSubImage .extractSig .sigFileUimg update (text "BrBoxSign") =
      some sigUimg)
    (hdd : t.dd64 .sigFile .sigFile sigUimg = (sig, true)) :
    t.mipsUpdate files devType opts =
      t.verifyThenFlash (getopts opts) devType update sig := by
  simp [Tools.mipsUpdate, hhelp, hpath, hupdate, hmulti, hsig, hdd]

/-- Only signed bytes are flashed, if and only if no run that flashes verifies an
incomplete sub-image: that `dd` is the one step that is not looked at. -/
theorem onlySigned_iff
    (t : Tools) (files : Bytes → Option Bytes) (devType : Bytes) (opts : List Opt) :
    OnlySigned t files devType opts ↔
      ((t.mipsUpdate files devType opts).flashed ≠ none →
        ∀ update sub, files (getopts opts).updateFile = some update →
          runExtract t.device update (Tools.brboxImg devType) = .copied sub →
            RawComplete t (Tools.written (t.room .extractSub) sub)) := by
  constructor
  · intro honly hflashed update sub hupdate hcopied
    obtain ⟨image, himage⟩ := Option.ne_none_iff_exists'.mp hflashed
    obtain ⟨update', sig, hupdate', heq⟩ := mipsUpdate_of_flashed himage
    obtain rfl := Option.some.inj (hupdate.symm.trans hupdate')
    have hrun := himage
    rw [heq] at hrun
    obtain ⟨sub', hcopied', -, hverified, hprocess, -⟩ := verifyThenFlash_of_flashed hrun
    rw [hcopied, Outcome.copied.injEq] at hcopied'
    subst hcopied'
    obtain ⟨-, -, hstripped⟩ := processUpdate_some hprocess
    have hsame := (honly image himage).verified
    rw [heq, hverified, Option.some.injEq, hstripped] at hsame
    exact verifyInput_eq_iff.mp hsame
  · intro hcomplete image himage
    obtain ⟨update, sig, hupdate, heq⟩ := mipsUpdate_of_flashed himage
    have hrun := himage
    rw [heq] at hrun
    obtain ⟨sub, hcopied, hsigned, hverified, hprocess, htest⟩ :=
      verifyThenFlash_of_flashed hrun
    obtain ⟨hlist, hname, hstripped⟩ := processUpdate_some hprocess
    have hraw := verifyInput_eq_iff.mpr
      (hcomplete (by rw [himage]; simp) update sub hupdate hcopied)
    rw [hraw, ← hstripped] at hsigned hverified
    obtain ⟨htype, hsub⟩ := ihType_written (length_of_listImage hlist)
    refine ⟨by rw [heq, hverified], ⟨sig, hsigned⟩, ⟨update, sub, hupdate, hcopied, ?_,
      hname, hstripped⟩, ?_⟩
    · rw [htype]
      exact ihType_of_runExtract rfl hcopied hsub
    · exact ((testOnly_getopts opts _).mp htest).2

end Flash

section Sample

/-- Header values for the example. -/
def imageArgs : BuildArgs :=
  { time := 0, load := 0, ep := 0, os := 5, arch := 5, comp := 0
    name := text "MIPS BrBoxGlA150" }

/-- A signature and an image for the board. -/
def sampleFiles : List Bytes :=
  [buildImage imageArgs ihTypeBrboxSignature (text "sig"),
    buildImage imageArgs ihTypeBrboxGlar150 (text "firmware")]

/-- The disk is full when the sub-image is stripped for `openssl`, and there is an old
signature of the bytes that are left. -/
def fullDisk : Tools :=
  { endian := .big
    mktemp := fun _ => true
    mkimage := fun _ => true
    room := fun _ => none
    dd := fun call => if call = .subImageRaw then some 4 else none
    sysupgradeTest := true
    signed := fun bytes sig => bytes = text "firm" ∧ sig = text "sig"
    stdin := [] }

/-- The update file. -/
def sampleUpdate : Bytes :=
  buildMulti fullDisk.device imageArgs sampleFiles

/-- The file system with the update file. -/
def updateFiles (path : Bytes) : Option Bytes :=
  if path = text "/tmp/update" then
    some sampleUpdate
  else
    none

theorem sampleFiles_wellFormed :
    ∀ f ∈ sampleFiles, WellFormed f := by
  intro f hf
  simp only [sampleFiles, List.mem_cons, List.not_mem_nil, or_false] at hf
  rcases hf with rfl | rfl
  · exact buildImage_wellFormed _ (by decide)
  · exact buildImage_wellFormed _ (by decide)

theorem sampleUpdate_length :
    sampleUpdate.length < 2 ^ 31 := by
  simp [sampleUpdate, sampleFiles, buildMulti, buildImage, withHeader_length, sizeTable,
    copyFiles, copyFile, headerSize, text, fullDisk, Tools.device]

/-- What -X extracts from the update file. -/
theorem runExtract_sampleUpdate :
    runExtract fullDisk.device sampleUpdate (text "BrBoxSign") =
        .copied (buildImage imageArgs ihTypeBrboxSignature (text "sig")) ∧
      runExtract fullDisk.device sampleUpdate (text "BrBoxGlA150") =
        .copied (buildImage imageArgs ihTypeBrboxGlar150 (text "firmware")) := by
  have hlist := listImage_buildMulti sampleFiles_wellFormed sampleUpdate_length
  have hsig : getImageType (text "BrBoxSign") = ihTypeBrboxSignature := by decide
  have hboard : getImageType (text "BrBoxGlA150") = ihTypeBrboxGlar150 := by decide
  have hne : ihTypeBrboxSignature ≠ ihTypeBrboxGlar150 := by decide
  constructor
  · rw [runExtract, listThen, sampleUpdate, hlist, hsig,
      extractFileFromMulti_buildMulti rfl sampleFiles_wellFormed sampleUpdate_length]
    simp [sampleFiles, buildImage, ihType_withHeader]
  · rw [runExtract, listThen, sampleUpdate, hlist, hboard,
      extractFileFromMulti_buildMulti rfl sampleFiles_wellFormed sampleUpdate_length]
    simp [sampleFiles, buildImage, ihType_withHeader, hne]

@[simp]
theorem mktemp_fullDisk
    (call : MktempCall) :
    fullDisk.mktemp call = true :=
  rfl

@[simp]
theorem mkimage_fullDisk
    (call : MkimageCall) :
    fullDisk.mkimage call = true :=
  rfl

@[simp]
theorem room_fullDisk
    (call : MkimageCall) :
    fullDisk.room call = none :=
  rfl

theorem drop_buildImage
    {type : Byte} {file : Bytes} :
    (buildImage imageArgs type file).drop headerSize = file := by
  rw [buildImage, withHeader_drop, copyFile]
  simp

/-- What `dd` leaves of an image without its header. -/
theorem dd64_sample
    {call : DdCall} {out : MktempCall} {type : Byte} {file : Bytes} :
    fullDisk.dd64 call out (buildImage imageArgs type file) =
      if call = .subImageRaw then (file.take 4, false) else (file, true) := by
  have hdrop : (buildImage imageArgs type file).drop 64 = file := by
    rw [← headerSize, drop_buildImage]
  have hdd : fullDisk.dd call = if call = .subImageRaw then some 4 else none := rfl
  rw [Tools.dd64, mktemp_fullDisk, if_pos rfl, hdrop, hdd]
  split
  · rfl
  · rfl

/-- The lines of the text of -l give the name of the board. -/
theorem nameWord_sample
    {type : Byte} {file : Bytes} :
    Tools.nameWord ((buildImage imageArgs type file).take headerSize) =
      text "BrBoxGlA150" := by
  rw [buildImage, withHeader_take, Tools.nameWord, ihName_header]
  decide

theorem hasMultiFile_sample
    {file : Bytes} :
    Tools.hasMultiFile ((buildImage imageArgs ihTypeBrboxGlar150 file).take headerSize) =
      false := by
  rw [buildImage, withHeader_take, Tools.hasMultiFile, ihType_header, ihName_header]
  decide

theorem listImage_sample :
    listImage fullDisk.device
      (buildImage imageArgs ihTypeBrboxGlar150 (text "firmware")) = some true := by
  apply listImage_buildImage
  · decide
  · simp [buildImage, copyFile, withHeader_length, headerSize, text]

theorem checkFileType_sample :
    fullDisk.checkFileType (buildImage imageArgs ihTypeBrboxGlar150 (text "firmware")) =
      .singlMkOk := by
  have hmulti : fullDisk.isItMultiMkFile .multiSub .tmpFile
      (buildImage imageArgs ihTypeBrboxGlar150 (text "firmware")) = false := by
    simp [Tools.isItMultiMkFile, hasMultiFile_sample]
  have hstatus : Tools.headerStatus
      (buildImage imageArgs ihTypeBrboxGlar150 (text "firmware")) = true := by
    have hcheck : checkHeader ((buildImage imageArgs ihTypeBrboxGlar150
        (text "firmware")).take headerSize) = true := checkHeader_withHeader
    simp [Tools.headerStatus, hcheck]
  have hsingle : fullDisk.isItSingleMkFile .singleSub .tmpFile
      (buildImage imageArgs ihTypeBrboxGlar150 (text "firmware")) = true := by
    simp [Tools.isItSingleMkFile, hasMultiFile_sample, hstatus]
  rw [Tools.checkFileType, hmulti, hsingle]
  simp [listImage_sample]

theorem getImageName_sample :
    fullDisk.getImageName (buildImage imageArgs ihTypeBrboxGlar150 (text "firmware")) =
      some (text "BrBoxGlA150") := by
  simp [Tools.getImageName, listImage_sample, nameWord_sample]

theorem brboxImg_sample :
    Tools.brboxImg (text "GL_AR150") = text "BrBoxGlA150" := by
  decide

theorem processImageType_sample
    {file : Bytes} :
    fullDisk.processImageType (text "GL_AR150") (buildImage imageArgs ihTypeBrboxGlar150 file)
      (text "BrBoxGlA150") = some file := by
  have hne : text "BrBoxGlA150" ≠ [] := by decide
  simp [Tools.processImageType, brboxImg_sample, hne, dd64_sample]

/-- The checks of the extracted image pass. -/
theorem processUpdate_sample :
    fullDisk.processUpdate (text "GL_AR150")
      (buildImage imageArgs ihTypeBrboxGlar150 (text "firmware")) =
        some (text "firmware") := by
  rw [processUpdate_eq checkFileType_sample getImageName_sample]
  exact processImageType_sample

/-- The update file passes for a multi-file image. -/
theorem isItMultiMkFile_sample :
    fullDisk.isItMultiMkFile .probe .headerFile sampleUpdate = true := by
  have hcheck : checkHeader (sampleUpdate.take headerSize) = true := checkHeader_withHeader
  have htype : ihType (sampleUpdate.take headerSize) = ihTypeMulti := by
    rw [sampleUpdate, buildMulti, withHeader_take, ihType_header]
  have hlen : headerSize ≤ sampleUpdate.length := by
    rw [sampleUpdate, buildMulti, withHeader_length]
    omega
  simp [Tools.isItMultiMkFile, Tools.headerStatus, Tools.hasMultiFile, hcheck, htype, hlen]

/-- Only a part of the image is verified. -/
theorem verifyInput_sample :
    fullDisk.verifyInput (buildImage imageArgs ihTypeBrboxGlar150 (text "firmware")) =
      text "firm" := by
  rw [Tools.verifyInput, mktemp_fullDisk, if_pos rfl, dd64_sample, if_pos rfl]
  decide

/-- And all of it is flashed. -/
theorem flash_sample
    {args : Args}
    (htest : args.testOnly = false) :
    fullDisk.flash args (text "GL_AR150")
      (buildImage imageArgs ihTypeBrboxGlar150 (text "firmware")) =
        some (text "firmware") := by
  rw [flash_eq processUpdate_sample rfl htest]

theorem extractSig_sample :
    fullDisk.extractSubImage .extractSig .sigFileUimg sampleUpdate (text "BrBoxSign") =
      some (buildImage imageArgs ihTypeBrboxSignature (text "sig")) := by
  simp [Tools.extractSubImage, runExtract_sampleUpdate.1, Tools.written]

theorem extractSub_sample :
    fullDisk.extractSubImage .extractSub .subImage sampleUpdate
      (Tools.brboxImg (text "GL_AR150")) =
        some (buildImage imageArgs ihTypeBrboxGlar150 (text "firmware")) := by
  rw [brboxImg_sample]
  simp [Tools.extractSubImage, runExtract_sampleUpdate.2, Tools.written]

theorem dd_sigFile_sample :
    fullDisk.dd64 .sigFile .sigFile
      (buildImage imageArgs ihTypeBrboxSignature (text "sig")) = (text "sig", true) := by
  rw [dd64_sample, if_neg (by decide)]

theorem signed_sample :
    fullDisk.signed (fullDisk.verifyInput
      (buildImage imageArgs ihTypeBrboxGlar150 (text "firmware"))) (text "sig") = true := by
  rw [verifyInput_sample]
  decide

theorem mipsUpdate_fullDisk :
    fullDisk.mipsUpdate updateFiles (text "GL_AR150") [.u (text "/tmp/update")] =
      { verified := some (text "firm"), flashed := some (text "firmware") } := by
  have hargs : getopts [.u (text "/tmp/update")] =
      { updateFile := text "/tmp/update", testOnly := false, printHelp := false } := rfl
  have hpath : text "/tmp/update" ≠ [] := by decide
  have hupdate : updateFiles (text "/tmp/update") = some sampleUpdate := by
    rw [updateFiles, if_pos rfl]
  have hknown : Tools.brboxImg (text "GL_AR150") ≠ text "unknown" := by decide
  rw [mipsUpdate_eq (by rw [hargs]) (by rwa [hargs]) (by rw [hargs]; exact hupdate)
      isItMultiMkFile_sample extractSig_sample dd_sigFile_sample,
    verifyThenFlash_eq hknown extractSub_sample signed_sample, verifyInput_sample,
    flash_sample (by rw [hargs])]

/-- The bytes that are flashed are not those that were verified. -/
theorem not_onlySigned_fullDisk :
    ¬ OnlySigned fullDisk updateFiles (text "GL_AR150") [.u (text "/tmp/update")] := by
  intro honly
  have hsame := (honly (text "firmware") (by rw [mipsUpdate_fullDisk])).verified
  rw [mipsUpdate_fullDisk] at hsame
  exact absurd hsame (by decide)

end Sample

end Mips
end BrBox
