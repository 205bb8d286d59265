import OpenTTT.Foundations.Mealy
import OpenTTT.Runtime.Json
import OpenTTT.Time.PotSigner

/-!
# The key file of a signer

`fromFile`, `saveToFile` and `createOrLoad` of `PotSigner`. A call is given the key that would be
generated and what becomes of its write, so a run of calls is one of a process with its restarts.

A file with nothing in it but spaces is read as the empty string, for which the constructor
generates a key: it is not saved, and the next call generates another one. `identity_kept_iff` says
that nothing else makes a signer of a file lose its key, and `blank_of_run` that such a file was
there before or comes from a write that was cut off before its first character.

A file is known by the text of its path, so two spellings of one path are two files here, and a file
that is there can be read.
-/

namespace OpenTTT.PotSigner

/-- The texts of the files. -/
abbrev Files := String → Option String

/-- What becomes of `writeFileSync`. If it throws, the file was not opened, or so many characters
were written into it. -/
inductive Write
  | done
  | failed (e : Thrown) (written : Option ℕ)

/-- The contents of a file after a write. -/
def Write.left (write : Write) (before : Option String) (text : String) : Option String :=
  match write with
  | .done => some text
  | .failed _ none => before
  | .failed _ (some n) => some (String.ofList (text.toList.take n))

/-- How a write ends. -/
def Write.outcome : Write → Except Thrown Unit
  | .done => .ok ()
  | .failed e _ => .error e

variable (ed25519 : Ed25519) (exportPkcs8 : ed25519.PrivateKey → Buffer)

/-- `getPrivateKeyHex`. -/
def getPrivateKeyHex (signer : PotSigner ed25519) : String :=
  Buffer.toHex (exportPkcs8 signer.privateKey)

/-- `saveToFile`. -/
def saveToFile (files : Files) (signer : PotSigner ed25519) (path : String) (write : Write) :
    Except Thrown Unit × Files :=
  (write.outcome, Function.update files path
    (write.left (files path) (getPrivateKeyHex ed25519 exportPkcs8 signer)))

/-- `PotSigner.fromFile`. -/
def fromFile (files : Files) (path : String) (generated : ed25519.PrivateKey) :
    Except Thrown (PotSigner ed25519) :=
  match files path with
  | none => .error (.error ("ENOENT: no such file or directory, open '" ++ path ++ "'"))
  | some text => new ed25519 (some (String.ofList (JsValue.trim text.toList))) generated

/-- `PotSigner.createOrLoad`. -/
def createOrLoad (files : Files) (path : String) (generated : ed25519.PrivateKey) (write : Write) :
    Except Thrown (PotSigner ed25519) × Files :=
  if (files path).isSome then (fromFile ed25519 files path generated, files)
  else
    match new ed25519 none generated with
    | .error e => (.error e, files)
    | .ok signer =>
      let saved := saveToFile ed25519 exportPkcs8 files signer path write
      (saved.1.map fun _ => signer, saved.2)

/-- A call that uses a file. -/
inductive FileCall
  | createOrLoad (path : String) (generated : ed25519.PrivateKey) (write : Write)
  | fromFile (path : String) (generated : ed25519.PrivateKey)
  | saveToFile (signer : PotSigner ed25519) (path : String) (write : Write)

/-- A call as a step, with the signer that it returns. -/
def fileStep (files : Files) :
    FileCall ed25519 → Except Thrown (Option (PotSigner ed25519)) × Files
  | .createOrLoad path generated write =>
    let result := createOrLoad ed25519 exportPkcs8 files path generated write
    (result.1.map some, result.2)
  | .fromFile path generated => ((fromFile ed25519 files path generated).map some, files)
  | .saveToFile signer path write =>
    let saved := saveToFile ed25519 exportPkcs8 files signer path write
    (saved.1.map fun _ => none, saved.2)

/-- The files after some calls. -/
def filesAfter (files : Files) (calls : List (FileCall ed25519)) : Files :=
  Mealy.after (fileStep ed25519 exportPkcs8) files calls

/-- An exported private key is read back, and is not empty. -/
structure Exports : Prop where
  createPrivateKey_exportPkcs8 (key : ed25519.PrivateKey) :
    ed25519.createPrivateKey (exportPkcs8 key) = .ok key
  exportPkcs8_ne_nil (key : ed25519.PrivateKey) : exportPkcs8 key ≠ []

/-- The file is there, with nothing but spaces in it. -/
def Blank (files : Files) (path : String) : Prop :=
  ∃ text, files path = some text ∧ JsValue.trim text.toList = []

/-- The write is done, or did not open the file. -/
def Write.Complete : Write → Prop
  | .done => True
  | .failed _ written => written = none

/-- The call saves no other signer than this one in the file, and does it completely. -/
def Keeps (path : String) (signer : PotSigner ed25519) : FileCall ed25519 → Prop
  | .saveToFile signer' path' write => path' = path → signer' = signer ∧ write.Complete
  | _ => True

variable {ed25519 exportPkcs8}

/-! ## What a file holds -/

/-- The file holds the key of the signer. -/
def Holds (files : Files) (path : String) (signer : PotSigner ed25519) : Prop :=
  ∃ text, files path = some text ∧ JsValue.trim text.toList ≠ [] ∧
    ed25519.createPrivateKey (Buffer.fromHexDigits (JsValue.trim text.toList)) =
      .ok signer.privateKey

theorem ofPrivateKey_privateKey (signer : PotSigner ed25519) :
    ofPrivateKey ed25519 signer.privateKey = signer := by
  obtain ⟨privateKey, publicKey, pubKeyHex, rfl, rfl⟩ := signer
  rfl

theorem new_none (generated : ed25519.PrivateKey) :
    new ed25519 none generated = .ok (ofPrivateKey ed25519 generated) := rfl

/-- The constructor of the text of a file. -/
theorem new_trim (text : List Char) (generated : ed25519.PrivateKey) :
    new ed25519 (some (String.ofList text)) generated =
      if text = [] then .ok (ofPrivateKey ed25519 generated)
      else (ed25519.createPrivateKey (Buffer.fromHexDigits text)).map (ofPrivateKey ed25519) := by
  have hempty : String.ofList text = "" ↔ text = [] := by
    rw [← String.toList_inj, String.toList_ofList]
    rfl
  rw [new]
  simp only [hempty, Buffer.fromHex, String.toList_ofList]

theorem fromFile_of_holds {files : Files} {path : String} {signer : PotSigner ed25519}
    (h : Holds files path signer) (generated : ed25519.PrivateKey) :
    fromFile ed25519 files path generated = .ok signer := by
  obtain ⟨text, htext, hne, hkey⟩ := h
  rw [fromFile, htext]
  dsimp only
  rw [new_trim, if_neg hne, hkey, Except.map, ofPrivateKey_privateKey]

/-- A file that is not blank and from which a signer is read holds its key. -/
theorem holds_of_fromFile {files : Files} {path : String} {signer : PotSigner ed25519}
    {generated : ed25519.PrivateKey} (hblank : ¬ Blank files path)
    (h : fromFile ed25519 files path generated = .ok signer) : Holds files path signer := by
  unfold fromFile at h
  cases htext : files path with
  | none =>
    rw [htext] at h
    cases h
  | some text =>
    rw [htext] at h
    dsimp only at h
    have hne : JsValue.trim text.toList ≠ [] := fun hnil => hblank ⟨text, htext, hnil⟩
    rw [new_trim, if_neg hne] at h
    refine ⟨text, htext, hne, ?_⟩
    cases hkey : ed25519.createPrivateKey (Buffer.fromHexDigits (JsValue.trim text.toList)) with
    | error e =>
      rw [hkey] at h
      cases h
    | ok key =>
      rw [hkey] at h
      cases h
      rfl

theorem fromFile_of_blank {files : Files} {path : String} (h : Blank files path)
    (generated : ed25519.PrivateKey) :
    fromFile ed25519 files path generated = .ok (ofPrivateKey ed25519 generated) := by
  obtain ⟨text, htext, hnil⟩ := h
  rw [fromFile, htext]
  dsimp only
  rw [new_trim, if_pos hnil]

/-- The digits of an encoding are no spaces, so a part of them is not changed by `trim`. -/
theorem trim_take_toHex (buf : Buffer) (n : ℕ) :
    JsValue.trim ((Buffer.toHex buf).toList.take n) = (Buffer.toHex buf).toList.take n := by
  have hdigit : ∀ n < 16, JsValue.isSpace (Buffer.hexDigit n) = false := by decide
  refine JsValue.trim_of_forall fun c hc => ?_
  have hmem := List.mem_of_mem_take hc
  rw [Buffer.toList_toHex, List.mem_flatMap] at hmem
  obtain ⟨b, -, hmem⟩ := hmem
  have hb : b.toNat < 256 := b.toNat_lt
  rcases List.mem_pair.1 hmem with rfl | rfl
  · exact hdigit _ (by omega)
  · exact hdigit _ (by omega)

theorem trim_toHex (buf : Buffer) :
    JsValue.trim (Buffer.toHex buf).toList = (Buffer.toHex buf).toList := by
  have htake := trim_take_toHex buf (Buffer.toHex buf).toList.length
  rwa [List.take_length] at htake

theorem toList_getPrivateKeyHex_ne_nil (hexports : Exports ed25519 exportPkcs8)
    (signer : PotSigner ed25519) :
    (getPrivateKeyHex ed25519 exportPkcs8 signer).toList ≠ [] := by
  have hpos := List.length_pos_iff.2 (hexports.exportPkcs8_ne_nil signer.privateKey)
  rw [← List.length_pos_iff, getPrivateKeyHex, Buffer.length_toHex]
  omega

/-- The file in which a signer is saved holds its key. -/
theorem holds_of_text (hexports : Exports ed25519 exportPkcs8) {files : Files} {path : String}
    {signer : PotSigner ed25519}
    (h : files path = some (getPrivateKeyHex ed25519 exportPkcs8 signer)) :
    Holds files path signer := by
  refine ⟨_, h, ?_, ?_⟩
  · rw [getPrivateKeyHex, trim_toHex]
    exact toList_getPrivateKeyHex_ne_nil hexports signer
  · rw [getPrivateKeyHex, trim_toHex]
    exact (congrArg _ (Buffer.fromHex_toHex _)).trans
      (hexports.createPrivateKey_exportPkcs8 signer.privateKey)

/-! ## Steps and runs -/

theorem createOrLoad_of_isSome {files : Files} {path : String} (h : (files path).isSome)
    (generated : ed25519.PrivateKey) (write : Write) :
    createOrLoad ed25519 exportPkcs8 files path generated write =
      (fromFile ed25519 files path generated, files) := by
  rw [createOrLoad, if_pos h]

theorem Holds.isSome {files : Files} {path : String} {signer : PotSigner ed25519}
    (h : Holds files path signer) : (files path).isSome := by
  obtain ⟨text, htext, -⟩ := h
  rw [htext]
  rfl

variable (exportPkcs8) in
/-- What a call does to the file at a path: nothing, or what a write of a signer to it does. -/
theorem fileStep_path (files : Files) (c : FileCall ed25519) (path : String) :
    (fileStep ed25519 exportPkcs8 files c).2 path = files path ∨
      ∃ signer write, (fileStep ed25519 exportPkcs8 files c).2 path =
          write.left (files path) (getPrivateKeyHex ed25519 exportPkcs8 signer) ∧
        (c = .saveToFile signer path write ∨
          ∃ generated, c = .createOrLoad path generated write ∧ files path = none) := by
  cases c with
  | fromFile path' generated => exact Or.inl rfl
  | saveToFile signer path' write =>
    by_cases hpath : path' = path
    · subst hpath
      exact Or.inr ⟨signer, write, Function.update_self .., Or.inl rfl⟩
    · exact Or.inl (Function.update_of_ne (Ne.symm hpath) ..)
  | createOrLoad path' generated write =>
    cases hfile : files path' with
    | some text =>
      refine Or.inl ?_
      rw [fileStep, createOrLoad_of_isSome (by rw [hfile]; rfl)]
    | none =>
      have hnone : ¬ (files path').isSome = true := by
        rw [hfile]
        exact Bool.false_ne_true
      have hstep : (fileStep ed25519 exportPkcs8 files (.createOrLoad path' generated write)).2 =
          Function.update files path' (write.left (files path')
            (getPrivateKeyHex ed25519 exportPkcs8 (ofPrivateKey ed25519 generated))) := by
        rw [fileStep, createOrLoad, if_neg hnone, new_none]
        rfl
      rw [hstep]
      by_cases hpath : path' = path
      · subst hpath
        exact Or.inr ⟨_, write, Function.update_self .., Or.inr ⟨generated, rfl, hfile⟩⟩
      · exact Or.inl (Function.update_of_ne (Ne.symm hpath) ..)

/-- A call that keeps the signer of a file leaves its key in it. -/
theorem holds_fileStep (hexports : Exports ed25519 exportPkcs8) {files : Files} {path : String}
    {signer : PotSigner ed25519} {c : FileCall ed25519} (hkeeps : Keeps ed25519 path signer c)
    (h : Holds files path signer) : Holds (fileStep ed25519 exportPkcs8 files c).2 path signer := by
  have hsame : ∀ {files' : Files}, files' path = files path → Holds files' path signer := by
    rintro files' heq
    obtain ⟨text, htext, hrest⟩ := h
    exact ⟨text, heq.trans htext, hrest⟩
  rcases fileStep_path exportPkcs8 files c path with heq | ⟨s, write, heq, hc⟩
  · exact hsame heq
  · rcases hc with rfl | ⟨generated, -, hnone⟩
    · obtain ⟨rfl, hcomplete⟩ := hkeeps rfl
      cases write with
      | done => exact holds_of_text hexports heq
      | failed e written =>
        subst hcomplete
        exact hsame heq
    · have hsome := h.isSome
      rw [hnone] at hsome
      cases hsome

theorem holds_filesAfter (hexports : Exports ed25519 exportPkcs8) {files : Files} {path : String}
    {signer : PotSigner ed25519} (h : Holds files path signer) {calls : List (FileCall ed25519)}
    (hkeeps : ∀ c ∈ calls, Keeps ed25519 path signer c) :
    Holds (filesAfter ed25519 exportPkcs8 files calls) path signer := by
  induction calls generalizing files with
  | nil => exact h
  | cons c calls ih =>
    rw [filesAfter, Mealy.after_cons]
    exact ih (holds_fileStep hexports (hkeeps c List.mem_cons_self) h)
      fun d hd => hkeeps d (List.mem_cons_of_mem c hd)

/-- A call that returns a signer leaves its key in the file, unless the file was blank. -/
theorem holds_of_createOrLoad (hexports : Exports ed25519 exportPkcs8) {files : Files}
    {path : String} {generated : ed25519.PrivateKey} {write : Write} {signer : PotSigner ed25519}
    (hblank : ¬ Blank files path)
    (h : (createOrLoad ed25519 exportPkcs8 files path generated write).1 = .ok signer) :
    Holds (createOrLoad ed25519 exportPkcs8 files path generated write).2 path signer := by
  cases hfile : files path with
  | some text =>
    have hsome : (files path).isSome := by rw [hfile]; rfl
    rw [createOrLoad_of_isSome hsome] at h ⊢
    exact holds_of_fromFile hblank h
  | none =>
    have hnone : ¬ (files path).isSome = true := by
      rw [hfile]
      exact Bool.false_ne_true
    rw [createOrLoad, if_neg hnone, new_none] at h ⊢
    cases write with
    | failed e written => cases h
    | done =>
      cases h
      exact holds_of_text hexports (Function.update_self ..)

/-- **When a signer keeps its key.** A call for the file at a path returns a signer. After any run
of calls that do not save another one there, the next call for the file returns the same signer,
whichever key would be generated, exactly if the file was not a blank one. -/
theorem identity_kept_iff [Nontrivial ed25519.PrivateKey]
    (hexports : Exports ed25519 exportPkcs8) {files : Files} {path : String}
    {generated : ed25519.PrivateKey} {write : Write} {signer : PotSigner ed25519}
    (h : (createOrLoad ed25519 exportPkcs8 files path generated write).1 = .ok signer) :
    (∀ calls : List (FileCall ed25519), (∀ c ∈ calls, Keeps ed25519 path signer c) →
        ∀ generated' write', (createOrLoad ed25519 exportPkcs8
            (filesAfter ed25519 exportPkcs8
              (createOrLoad ed25519 exportPkcs8 files path generated write).2 calls)
            path generated' write').1 = .ok signer) ↔
      ¬ Blank files path := by
  constructor
  · intro hkept hblank
    have hsome : (files path).isSome := by
      obtain ⟨text, htext, -⟩ := hblank
      rw [htext]
      rfl
    obtain ⟨other, hother⟩ := exists_ne signer.privateKey
    have hnext := hkept [] (fun c hc => absurd hc List.not_mem_nil) other .done
    rw [createOrLoad_of_isSome hsome, filesAfter, Mealy.after_nil, createOrLoad_of_isSome hsome,
      fromFile_of_blank hblank, Except.ok.injEq] at hnext
    exact hother (congrArg PotSigner.privateKey hnext)
  · intro hblank calls hkeeps generated' write'
    have hholds := holds_filesAfter hexports (holds_of_createOrLoad hexports hblank h) hkeeps
    rw [createOrLoad_of_isSome hholds.isSome]
    exact fromFile_of_holds hholds generated'

/-! ## Where a blank file comes from -/

/-- The call writes to the file at the path, and the write ends before its first character. -/
def CutOff (path : String) : FileCall ed25519 → Prop
  | .createOrLoad path' _ write => path' = path ∧ ∃ e, write = .failed e (some 0)
  | .saveToFile _ path' write => path' = path ∧ ∃ e, write = .failed e (some 0)
  | .fromFile _ _ => False

/-- A write that changes a file and leaves it blank is cut off. -/
theorem write_of_blank (hexports : Exports ed25519 exportPkcs8) {signer : PotSigner ed25519}
    {write : Write} {before : Option String} {text : String}
    (hleft : write.left before (getPrivateKeyHex ed25519 exportPkcs8 signer) = some text)
    (hnil : JsValue.trim text.toList = []) (hbefore : before ≠ some text) :
    ∃ e, write = .failed e (some 0) := by
  have hne := toList_getPrivateKeyHex_ne_nil hexports signer
  match write with
  | .done =>
    obtain rfl := Option.some.inj hleft
    rw [getPrivateKeyHex, trim_toHex] at hnil
    exact absurd hnil hne
  | .failed e none => exact absurd hleft hbefore
  | .failed e (some n) =>
    obtain rfl := Option.some.inj hleft
    rw [String.toList_ofList, getPrivateKeyHex, trim_take_toHex, List.take_eq_nil_iff] at hnil
    obtain rfl := hnil.resolve_right hne
    exact ⟨e, rfl⟩

theorem blank_fileStep (hexports : Exports ed25519 exportPkcs8) {files : Files}
    {c : FileCall ed25519} {path : String}
    (h : Blank (fileStep ed25519 exportPkcs8 files c).2 path) :
    Blank files path ∨ CutOff path c := by
  obtain ⟨text, htext, hnil⟩ := h
  by_cases hbefore : files path = some text
  · exact Or.inl ⟨text, hbefore, hnil⟩
  · rcases fileStep_path exportPkcs8 files c path with heq | ⟨signer, write, heq, hc⟩
    · exact absurd (heq ▸ htext) hbefore
    · have hcut := write_of_blank hexports (heq ▸ htext) hnil hbefore
      rcases hc with rfl | ⟨generated, rfl, -⟩
      · exact Or.inr ⟨rfl, hcut⟩
      · exact Or.inr ⟨rfl, hcut⟩

/-- **Where a blank file comes from.** A file that is blank after some calls was blank before them,
or one of them wrote to it and was cut off. -/
theorem blank_of_run (hexports : Exports ed25519 exportPkcs8) {files : Files} {path : String}
    {calls : List (FileCall ed25519)}
    (h : Blank (filesAfter ed25519 exportPkcs8 files calls) path) :
    Blank files path ∨ ∃ c ∈ calls, CutOff path c := by
  have hstep : ∀ files c (path : String),
      Blank (fileStep ed25519 exportPkcs8 files c).2 path → Blank files path ∨ CutOff path c :=
    fun _ _ _ => blank_fileStep hexports
  exact Mealy.exists_source_of_after _ Blank hstep h

/-! ## Two keys -/

namespace KeyFiles.Sample

/-- Two private keys with their public keys, in PKCS #8 and in SPKI. -/
def pkcs8 (first : Bool) : Buffer :=
  Buffer.fromHex ("302e020100300506032b657004220420" ++
    if first then "4ccd089b28ff96da9db6c346ec114e0f5b8a319f35aba624da8cf6ed4fb8a6fb"
    else "9d61b19deffd5a60ba844af492ec2cc44449c5697b326919703bac031cae7f60")

def spki (first : Bool) : Buffer :=
  Buffer.fromHex ("302a300506032b6570032100" ++
    if first then "3d4017c3e843895a92b70aa74d1b7ebc9c982ccf2ec4968cc0cd55f12af4660c"
    else "d75a980182b10ab7d54bfed3c964073a0ee172f3daa62325af021a68f707511a")

/-- The key of some bytes. -/
def keyOf (encoding : Bool → Buffer) (der : Buffer) : Except Thrown Bool :=
  if der = encoding true then .ok true
  else if der = encoding false then .ok false
  else .error .typeError

def twoPairs : Ed25519 where
  PrivateKey := Bool
  PublicKey := Bool
  createPrivateKey := keyOf pkcs8
  publicKeyOf key := key
  createPublicKey := keyOf spki
  exportSpki := spki
  sign _ _ := []
  verify _ _ _ := .ok false

theorem exports : Exports twoPairs pkcs8 where
  createPrivateKey_exportPkcs8 key := by
    have hne : pkcs8 false ≠ pkcs8 true := by decide +kernel
    change keyOf pkcs8 (pkcs8 key) = .ok key
    cases key with
    | true => rw [keyOf, if_pos rfl]
    | false => rw [keyOf, if_neg hne, if_pos rfl]
  exportPkcs8_ne_nil key := by cases key <;> decide +kernel

instance : Nontrivial twoPairs.PrivateKey := inferInstanceAs (Nontrivial Bool)

/-- The signer of the first key. -/
def signer : PotSigner twoPairs := ofPrivateKey twoPairs true

end KeyFiles.Sample

open KeyFiles.Sample in
/-- A signer that is created and saved where there was no file. -/
theorem identity_kept_created :
    (∀ calls : List (FileCall twoPairs), (∀ c ∈ calls, Keeps twoPairs "keys/signer" signer c) →
        ∀ generated' write', (createOrLoad twoPairs pkcs8
            (filesAfter twoPairs pkcs8
              (createOrLoad twoPairs pkcs8 (fun _ => none) "keys/signer" true .done).2 calls)
            "keys/signer" generated' write').1 = .ok signer) ↔
      ¬ Blank (fun _ => none) "keys/signer" :=
  identity_kept_iff exports rfl

end OpenTTT.PotSigner
