import ClusterAgent.Launch.Start
import ClusterAgent.Proofs.Launch.Assembly
import ClusterAgent.Proofs.Launch.Report
import ClusterAgent.Proofs.Storage.Sessions
import ClusterAgent.Proofs.Token.Service

/-! Passwords of tokens go nowhere but into the credentials of a specification and the token file of
its container: two launches that differ in passwords alone log the same, fail or succeed in the same
way, and run the container with the same parameters. -/
namespace ClusterAgent

open ClusterAgent.Action

/-! ### Assembling -/

/-- The second request is the first with other passwords in the tokens of the user. -/
def LaunchRequest.Alike (r r' : LaunchRequest) : Prop :=
  ∃ userTokens, List.Forall₂ Token.Alike r.userTokens userTokens ∧ r' = { r with userTokens }

/-- The second specification is the first with credentials that are as long. -/
def LaunchSpec.Alike (spec spec' : LaunchSpec) : Prop :=
  ∃ credentials, credentials.length = spec.credentials.length ∧ spec' = { spec with credentials }

/-- The same error, or the same fault of parts that differ in the credentials. Their reports are the
same text just if the credentials are quoted with the same mark, or cannot be shown at all. -/
inductive AssemblyError.Alike : AssemblyError → AssemblyError → Prop
  | same (e : AssemblyError) : Alike e e
  | invalid {budget heap : Int} {environment : Environment} {resources : List Resource}
      {bytes bytes' : List UInt8} (fault : Schema.Fault) (hlength : bytes'.length = bytes.length)
      (hmessage : (invalid [fault] (.record
          (LaunchSpec.partFields budget heap environment resources bytes'))).message =
        (invalid [fault] (.record
          (LaunchSpec.partFields budget heap environment resources bytes))).message ↔
        (Text.isWritable budget ∧ Text.isWritable heap ∧ (∀ r ∈ resources, r.isWritable) →
          Text.quotationMark bytes' = Text.quotationMark bytes)) :
      Alike (.invalid [fault] (.record
          (LaunchSpec.partFields budget heap environment resources bytes)))
        (.invalid [fault] (.record
          (LaunchSpec.partFields budget heap environment resources bytes')))

instance : Std.Refl AssemblyError.Alike := ⟨.same⟩

namespace LaunchRequest

theorem ignoresSessions_resources (r : LaunchRequest) (storage : Storage) :
    (r.resources storage).IgnoresSessions := by
  refine (IgnoresSessions.mapM (fun a =>
    Resource.ignoresSessions_provision storage a _ _) _).bind fun staged => ?_
  exact (IgnoresSessions.mapM (Resource.ignoresSessions_register storage) _).bind fun _ => .pure _

theorem ignoresSessions_tokenPaths (r : LaunchRequest) (storage : Storage)
    (resources : List Resource) : (r.tokenPaths storage resources).IgnoresSessions :=
  (Resource.ignoresSessions_rootOrHome storage r.root).bind fun root =>
    (storage.ignoresSessions_qualify root).bind fun _ => .pure _

theorem paired_equip {r r' : LaunchRequest} (hr : r.Alike r') {service service' : TokenService}
    (hservice : service.Alike service') (storage : Storage) (heap : Int)
    (resources : List Resource) :
    Paired World.Alike World.Alike AssemblyError.Alike LaunchSpec.Alike
      (r.equip storage service heap resources) (r'.equip storage service' heap resources) := by
  obtain ⟨userTokens, htokens, rfl⟩ := hr
  unfold equip
  refine (IgnoresSessions.liftM _).paired.bind_eq fun environment => ?_
  refine ((r.ignoresSessions_tokenPaths storage _).mapFailure _).paired.bind_eq fun paths => ?_
  refine ((Credentials.paired_bundle hservice htokens paths).mapFailure _).bind
    fun bytes bytes' hbytes => ?_
  refine (IgnoresSessions.liftM _).paired.bind_eq fun sizes => ?_
  refine (IgnoresSessions.logEntry _ _).paired.bind_eq fun _ => ?_
  dsimp only
  unfold LaunchSpec.ofParts
  by_cases hfits : heap ≤ r.budget
  · rw [dif_pos hfits, dif_pos hfits]
    exact .pure ⟨bytes', hbytes.length, rfl⟩
  · rw [dif_neg hfits, dif_neg hfits]
    exact .throw (.invalid _ hbytes.length (AssemblyError.message_eq_iff hbytes _))

theorem paired_assemble {r r' : LaunchRequest} (hr : r.Alike r') {service service' : TokenService}
    (hservice : service.Alike service') (storage : Storage) :
    Paired World.Alike World.Alike AssemblyError.Alike LaunchSpec.Alike
      (r.assemble storage service) (r'.assemble storage service') := by
  have hequip := paired_equip hr hservice storage
  obtain ⟨userTokens, htokens, rfl⟩ := hr
  unfold assemble
  refine (IgnoresSessions.liftM _).paired.bind_eq fun heap => ?_
  refine ((r.ignoresSessions_resources storage).mapFailure _).paired.bind_eq fun resources => ?_
  exact hequip heap resources

end LaunchRequest

/-! ### Token files -/

namespace FileTree

variable {t : FileTree} {workingDirectory path : LocalPath} {key : List String}

/-- The two trees are the same but for the content of one file, which is as long in both. -/
def AlikeBut (key : List String) (t t' : FileTree) : Prop :=
  ∀ key', t'.node? key' = t.node? key' ∨ key' = key ∧ ∃ content content' modified mode,
    content'.length = content.length ∧ t.node? key' = some (.file content modified mode) ∧
      t'.node? key' = some (.file content' modified mode)

/-- Whether and where a file is written does not depend on its content. -/
theorem writeFile_uniform (t : FileTree) (workingDirectory path : LocalPath) (modified : Int)
    (mode : Nat) :
    (∃ code, ∀ content,
      t.writeFile workingDirectory path content modified mode = .error code) ∨
    ∃ key mode', t.locate workingDirectory path = .ok key ∧ t.node? key ≠ some .directory ∧
      ∀ content, t.writeFile workingDirectory path content modified mode =
        .ok (t.insert key (.file content modified mode')) := by
  unfold writeFile
  cases hlocate : t.locate workingDirectory path with
  | error code => exact Or.inl ⟨code, fun _ => rfl⟩
  | ok key =>
    dsimp only [bind, Except.bind]
    cases hnode : t.node? key with
    | none => exact Or.inr ⟨key, mode, rfl, by rw [hnode]; exact nofun, fun _ => rfl⟩
    | some node =>
      cases node with
      | directory => exact Or.inl ⟨.isDirectory, fun _ => rfl⟩
      | file content' modified' present =>
        exact Or.inr ⟨key, present, rfl, by rw [hnode]; exact nofun, fun _ => rfl⟩

theorem setMode_insert (hlocate : t.locate workingDirectory path = .ok key)
    (hnode : t.node? key ≠ some .directory) (content : List UInt8) (modified : Int)
    (mode mode' : Nat) :
    setMode (Table.insert t key (.file content modified mode)) workingDirectory path mode' =
      .ok (Table.insert (Table.insert t key (.file content modified mode)) key
        (.file content modified mode')) := by
  have hroot := ne_nil_of_node?_ne hnode
  have hextends := extends_insert hroot hnode (.file content modified mode)
  unfold setMode
  rw [hextends.locate_eq_ok hlocate]
  dsimp only [bind, Except.bind]
  rw [node?_insert hroot, if_pos rfl]

theorem alikeBut_insert (hnode : t.node? key ≠ some .directory) {content content' : List UInt8}
    (hlength : content'.length = content.length) (modified : Int) (mode mode' : Nat) :
    AlikeBut key
      (Table.insert (Table.insert t key (.file content modified mode)) key
        (.file content modified mode'))
      (Table.insert (Table.insert t key (.file content' modified mode)) key
        (.file content' modified mode')) := by
  have hroot := ne_nil_of_node?_ne hnode
  intro key'
  rw [node?_insert hroot, node?_insert hroot, node?_insert hroot, node?_insert hroot]
  by_cases hkey : key' = key
  · rw [if_pos hkey, if_pos hkey]
    exact Or.inr ⟨hkey, content, content', modified, mode', hlength, rfl, rfl⟩
  · rw [if_neg hkey, if_neg hkey, if_neg hkey, if_neg hkey]
    exact Or.inl rfl

end FileTree

namespace LaunchSpec

/-- A token file is written as a whole or not at all, whatever its content is. -/
theorem run_writeTokenFile (path : LocalPath) (w : World) :
    (∃ e, ∀ content, (writeTokenFile path content).run w = (.error e, w)) ∨
    w.files.node? (path.key w.workingDirectory) ≠ some .directory ∧ ∃ mode, ∀ content,
      (writeTokenFile path content).run w = (.ok (), { w with
        files := Table.insert (Table.insert w.files (path.key w.workingDirectory)
          (.file content w.now mode)) (path.key w.workingDirectory)
            (.file content w.now tokenFileMode) }) := by
  by_cases hname : path.parts.any (·.toList.contains '\x00') = true
  · refine Or.inl ⟨.nullByte, fun content => Action.run_bind_of_error ?_ _⟩
    unfold Files.write
    rw [Action.run_bind_of_ok (Action.run_get w), Files.run_update_eq, if_pos hname]
  · rcases FileTree.writeFile_uniform w.files w.workingDirectory path w.now tokenFileMode with
      ⟨code, hfails⟩ | ⟨key, mode, hlocate, hnode, hwrites⟩
    · refine Or.inl ⟨.os ⟨code, some path.text⟩, fun content => Action.run_bind_of_error ?_ _⟩
      unfold Files.write
      rw [Action.run_bind_of_ok (Action.run_get w), Files.run_update_eq, if_neg hname, hfails]
    · obtain rfl := FileTree.key_of_locate hlocate
      refine Or.inr ⟨hnode, mode, fun content => ?_⟩
      have hwrite : (Files.write path content tokenFileMode).run w = (.ok (), { w with
          files := Table.insert w.files (path.key w.workingDirectory)
            (.file content w.now mode) }) := by
        unfold Files.write
        rw [Action.run_bind_of_ok (Action.run_get w), Files.run_update_eq, if_neg hname, hwrites]
      refine (Action.run_bind_of_ok hwrite _).trans ?_
      unfold Files.setMode
      rw [Files.run_update_eq, if_neg hname]
      dsimp only
      rw [FileTree.setMode_insert hlocate hnode]

end LaunchSpec

/-! ### Launching -/

/-- The same event; the files that it was noted with may be different in the content of one. -/
inductive Event.AlikeBut (key : List String) : Event → Event → Prop
  | same (event : Event) : AlikeBut key event event
  | launchRequested (request : RunRequest) {files files' : FileTree}
      (h : files.AlikeBut key files') :
      AlikeBut key (.launchRequested request files) (.launchRequested request files')

/-- The two worlds are the same, their logs and what was asked of others included, but for the
content of one file and what sessions there would be. -/
structure World.AlikeBut (file : LocalPath) (w v : World) : Prop where
  files : w.files.AlikeBut (file.key w.workingDirectory) v.files
  journal : List.Forall₂ (Event.AlikeBut (file.key w.workingDirectory)) w.journal v.journal
  rest : v = { w with files := v.files, journal := v.journal, sessionAnswer := v.sessionAnswer }

theorem World.Alike.but {w v : World} (h : w.Alike v) (file : LocalPath) : w.AlikeBut file v := by
  obtain ⟨answer, rfl, -⟩ := h
  exact ⟨fun _ => Or.inl rfl, List.forall₂_same.mpr fun event _ => .same event, rfl⟩

/-- Such a start neither reads the token file nor asks for sessions. -/
def Discreet (start : RunRequest → Action ContainerError Datum) : Prop :=
  ∀ file request, Paired (World.AlikeBut file) (World.AlikeBut file) Eq Eq (start request)
    (start request)

theorem World.AlikeBut.note {file : LocalPath} {w v : World} (h : w.AlikeBut file v)
    {event event' : Event} (hevent : event.AlikeBut (file.key w.workingDirectory) event') :
    { w with journal := w.journal ++ [event] }.AlikeBut file
      { v with journal := v.journal ++ [event'] } := by
  obtain ⟨hfiles, hjournal, hrest⟩ := h
  refine ⟨hfiles, List.rel_append hjournal (.cons hevent .nil), ?_⟩
  rw [hrest]

section

variable {ε : Type} {file : LocalPath}

theorem paired_note (event : Event) :
    Paired (World.AlikeBut file) (World.AlikeBut file) Eq Eq (note event : Action ε Unit)
      (note event) :=
  .modify fun _ _ hwv => hwv.note (.same event)

theorem paired_logEntry (level : LogLevel) (message : String) :
    Paired (World.AlikeBut file) (World.AlikeBut file) Eq Eq
      (logEntry level message : Action ε Unit) (logEntry level message) := by
  refine .modify fun w v hwv => ?_
  obtain ⟨hfiles, hjournal, hrest⟩ := hwv
  refine ⟨hfiles, hjournal, ?_⟩
  rw [hrest]

end

/-- Every client starts containers in such a way. -/
theorem ContainerClient.discreet_start (client : ContainerClient) : Discreet client.start := by
  intro file request
  unfold start
  refine (paired_logEntry _ _).bind_eq fun _ => ?_
  refine (paired_note _).bind_eq fun _ => ?_
  cases client.service.run with
  | error fault => exact .throw rfl
  | ok reply => exact .liftM (.of_eq (fun _ => rfl) (fun _ => rfl) _)

namespace LaunchSpec

theorem ignoresSessions_warnOfHost (spec : LaunchSpec) : spec.warnOfHost.IgnoresSessions := by
  refine .get_bind (fun w => ?_) fun _ _ => rfl
  dsimp only
  split
  · exact (IgnoresSessions.liftM _).bind fun _ => .logEntry _ _
  · exact .pure _

theorem ignoresSessions_writeTokenFile (path : LocalPath) (content : List UInt8) :
    (writeTokenFile path content).IgnoresSessions :=
  (Files.ignoresSessions_write path content _).bind fun _ => Files.ignoresSessions_update path _

theorem paired_writeTokenFile (file : LocalPath) {content content' : List UInt8}
    (hlength : content'.length = content.length) :
    Paired World.Alike (World.AlikeBut file) Eq Eq (writeTokenFile file content)
      (writeTokenFile file content') := by
  intro w v hwv
  have hbut := hwv.but file
  obtain ⟨answer, rfl, -⟩ := hwv
  rw [ignoresSessions_writeTokenFile file content' w answer]
  rcases run_writeTokenFile file w with ⟨e, hfails⟩ | ⟨hnode, mode, hwrites⟩
  · rw [hfails, hfails]
    exact ⟨.error rfl, hbut⟩
  · rw [hwrites, hwrites]
    refine ⟨.ok rfl, ?_, List.forall₂_same.mpr fun event _ => .same event, rfl⟩
    exact FileTree.alikeBut_insert hnode hlength w.now mode tokenFileMode

theorem paired_runContainer {spec spec' : LaunchSpec} (h : spec.Alike spec')
    {start : RunRequest → Action ContainerError Datum} (hstart : Discreet start)
    (image name : String) (file : LocalPath) (command : List String) :
    Paired (World.AlikeBut file) (World.AlikeBut file) Eq Eq
      (spec.runContainer start image name file command)
      (spec'.runContainer start image name file command) := by
  obtain ⟨credentials, -, rfl⟩ := h
  unfold runContainer
  refine (Paired.liftM (.of_eq (fun _ => rfl) (fun _ => rfl) _)).bind_eq fun parameters => ?_
  intro w v hwv
  rw [run_bind_of_ok (run_get w), run_bind_of_ok (run_get v), run_bind_of_ok (run_note _ _),
    run_bind_of_ok (run_note _ _)]
  refine ((hstart file _).mapFailure _).bind_eq (fun container => ?_) _ _
    (hwv.note (.launchRequested _ hwv.files))
  have hstarted : Paired (World.AlikeBut file) (World.AlikeBut file) Eq Eq
      (liftM ((spec.startMessage container name).mapError LaunchError.numeral) >>= fun message =>
        logInfo message >>= fun _ => pure container)
      (liftM ((spec.startMessage container name).mapError LaunchError.numeral) >>= fun message =>
        logInfo message >>= fun _ => pure container) :=
    (Paired.liftM (.of_eq (fun _ => rfl) (fun _ => rfl) _)).bind_eq fun _ =>
      (paired_logEntry _ _).bind_eq fun _ => .pure rfl
  dsimp only
  split
  · exact (Paired.throw rfl).bind_eq fun _ => hstarted
  · exact hstarted

theorem paired_launch {spec spec' : LaunchSpec} (h : spec.Alike spec')
    {start : RunRequest → Action ContainerError Datum} (hstart : Discreet start)
    (image name : String) (directory : LocalPath) (command : List String) :
    Paired World.Alike (World.AlikeBut (tokenFile directory name)) Eq Eq
      (spec.launch start image name directory command)
      (spec'.launch start image name directory command) := by
  have hrun := paired_runContainer h hstart image name (tokenFile directory name) command
  obtain ⟨credentials, hlength, rfl⟩ := h
  have hbut : ∀ w v : World, w.Alike v → w.AlikeBut (tokenFile directory name) v :=
    fun _ _ hwv => hwv.but _
  unfold launch
  refine spec.ignoresSessions_warnOfHost.paired.bind_imp hbut fun _ _ _ => ?_
  refine ((Files.ignoresSessions_ensureDirectory directory).mapFailure _).paired.bind_imp hbut
    fun _ _ _ => ?_
  exact ((paired_writeTokenFile _ hlength).mapFailure _).bind_eq fun _ => hrun

end LaunchSpec

/-! ### Assembling and launching -/

namespace LaunchRequest

/-- Assembles a specification and launches it by way of a client. What comes of the launch stands
beside the specification. -/
def carryOut (r : LaunchRequest) (storage : Storage) (service : TokenService)
    (client : ContainerClient) (image name : String) (directory : LocalPath)
    (command : List String) : Action AssemblyError (LaunchSpec × Except LaunchError Datum) := do
  let spec ← r.assemble storage service
  return (spec, ← (spec.launch client.start image name directory command).attempt)

/-- Two runs that differ in passwords of one length log the same, ask the same of others, run the
container with the same parameters, and come to the same identifier or the same error. What is
different are the credentials of the specifications, and the content of the token files. A report on
parts that make no specification shows the end of the credentials and thereby the mark that they are
quoted with; in this mark, and in nothing else, two reports may differ. -/
theorem paired_carryOut {r r' : LaunchRequest} (hr : r.Alike r') {service service' : TokenService}
    (hservice : service.Alike service') (storage : Storage) (client : ContainerClient)
    (image name : String) (directory : LocalPath) (command : List String) :
    Paired World.Alike (World.AlikeBut (LaunchSpec.tokenFile directory name)) AssemblyError.Alike
      (fun x y => x.1.Alike y.1 ∧ y.2 = x.2)
      (r.carryOut storage service client image name directory command)
      (r'.carryOut storage service' client image name directory command) := by
  unfold carryOut
  refine (paired_assemble hr hservice storage).bind_imp (fun _ _ hwv => hwv.but _)
    fun spec spec' hspec => ?_
  have hlaunch := LaunchSpec.paired_launch hspec client.discreet_start image name directory command
  refine hlaunch.attempt.bind fun result result' hresult => .pure ⟨hspec, ?_⟩
  exact hresult.eq_of_eq.symm

/-- What a session of this secret amounts to as a password. -/
def secretText (secret : String) : String :=
  Json.printAscii .ascii (.ofFields [("aws_access_key_id", .text "id"),
    ("aws_secret_access_key", .text secret), ("aws_session_token", .text "T"),
    ("expiration", .str [])])

/-- A world whose sessions have this secret. -/
def secretWorld (secret : String) : World := { World.bare with
  sessionAnswer := fun _ =>
    .ok ⟨some (.string "id"), some (.string secret), some (.string "T"), none⟩ }

/-- A launch for a user with one token. -/
def secretRequest (password : List UInt8) : LaunchRequest where
  budget := 1000
  application := "app"
  artifacts := []
  root := some "s3://b"
  heapRatio := .whole 1
  userTokens := [⟨"u", password, "K", "s"⟩]

/-- A service that issues one token. -/
def secretService (password : List UInt8) : TokenService := .fixed [⟨"b", password, "K", "s3://b"⟩]

/-- A client whose service starts every container. -/
def willingClient : ContainerClient := ⟨.docker, { run := .ok (.container (.string "c0ffee")) }⟩

/-- A run with these passwords of the user and of the service. -/
def secretRun (password password' : List UInt8) :
    Action AssemblyError (LaunchSpec × Except LaunchError Datum) :=
  (secretRequest password).carryOut (.bucket "b") (secretService password') willingClient "image"
    "name" (.ofText "/t") []

theorem alike_secretWorld : (secretWorld "S").Alike (secretWorld "Z") := by
  have hlength : (Utf8.encode (secretText "Z")).length =
      (Utf8.encode (secretText "S")).length := by
    unfold secretText Json.printAscii Json.print Json.ofFields Utf8.encode
    simp only [String.toList_ofList, List.map_cons, List.map_nil, Json.printAt, Json.printMembers,
      Json.printMember, Json.text]
    decide +kernel
  refine ⟨(secretWorld "Z").sessionAnswer, rfl, fun _ => .ok fun bucket => ?_⟩
  rw [TokenService.sessionToken_of_texts, TokenService.sessionToken_of_texts]
  exact .ok ⟨_, hlength, rfl⟩

theorem paired_carryOut_twoSecrets :
    (secretRequest [1]).Alike (secretRequest [2]) ∧
      (secretService [3]).Alike (secretService [4]) ∧
      (secretWorld "S").Alike (secretWorld "Z") ∧ ∃ spec spec' id w' v',
        (secretRun [1] [3]).run (secretWorld "S") = (.ok (spec, .ok id), w') ∧
        (secretRun [2] [4]).run (secretWorld "Z") = (.ok (spec', .ok id), v') ∧
        spec.Alike spec' ∧ spec'.credentials ≠ spec.credentials ∧
        w'.AlikeBut (LaunchSpec.tokenFile (.ofText "/t") "name") v' := by
  have hrequests : (secretRequest [1]).Alike (secretRequest [2]) :=
    ⟨_, .cons ⟨[2], rfl, rfl⟩ .nil, rfl⟩
  have hservices : (secretService [3]).Alike (secretService [4]) :=
    .fixed (.cons ⟨[4], rfl, rfl⟩ .nil)
  have hstarted : ((secretRun [1] [3]).run (secretWorld "S")).1.toOption.map (·.2.isOk) =
      some true := by decide +kernel
  have hdiffer : ((secretRun [2] [4]).run (secretWorld "Z")).1.toOption.map (·.1.credentials) ≠
      ((secretRun [1] [3]).run (secretWorld "S")).1.toOption.map (·.1.credentials) := by
    decide +kernel
  have hpaired : Paired World.Alike (World.AlikeBut (LaunchSpec.tokenFile (.ofText "/t") "name"))
      AssemblyError.Alike (fun x y => x.1.Alike y.1 ∧ y.2 = x.2) (secretRun [1] [3])
      (secretRun [2] [4]) :=
    paired_carryOut hrequests hservices (.bucket "b") willingClient "image" "name" (.ofText "/t") []
  obtain ⟨hresult, hbut⟩ := hpaired _ _ alike_secretWorld
  generalize (secretRun [1] [3]).run (secretWorld "S") = run at hresult hbut hstarted hdiffer ⊢
  generalize (secretRun [2] [4]).run (secretWorld "Z") = run' at hresult hbut hdiffer ⊢
  obtain ⟨result, w'⟩ := run
  obtain ⟨result', v'⟩ := run'
  cases hresult with
  | error h => cases hstarted
  | @ok x y h =>
    obtain ⟨spec, started⟩ := x
    obtain ⟨spec', started'⟩ := y
    obtain ⟨hspec, hstart⟩ := h
    obtain rfl : started = started' := hstart.symm
    cases started with
    | error e => cases hstarted
    | ok id =>
      exact ⟨hrequests, hservices, alike_secretWorld, spec, spec', id, w', v', rfl, rfl, hspec,
        fun hsame => hdiffer (congrArg some hsame), hbut⟩

/-- A launch whose heap is larger than its memory, for a user with one token. -/
def oversizedRequest (password : List UInt8) : LaunchRequest :=
  { secretRequest password with heapRatio := .whole 2 }

def oversizedRun (password : List UInt8) :
    Action AssemblyError (LaunchSpec × Except LaunchError Datum) :=
  (oversizedRequest password).carryOut (.bucket "b") (secretService [3])
    willingClient "image" "name" (.ofText "/t") []

/-- The credentials of such a launch. -/
def oversizedCredentials (password : List UInt8) : Action CredentialError (List UInt8) :=
  Credentials.bundle (secretService [3]) ["s3://b"] (oversizedRequest password).userTokens

theorem run_oversizedRun {password credentials : List UInt8} {environment : Environment}
    {w' : World} (henvironment : (oversizedRequest [0]).environment 2000 = .ok environment)
    (h : (oversizedCredentials password).run World.bare = (.ok credentials, w')) :
    ∃ w'', (oversizedRun password).run World.bare =
      (.error (.invalid [⟨[], .heapExceedsBudget 2000 1000⟩] (.record
        (LaunchSpec.partFields 1000 2000 environment [] credentials))), w'') := by
  have hheap : heapLimit 1000 (.whole 2) defaultHeapCap = .ok 2000 := by decide
  have hbudget : Text.isWritable (1000 : Int) := by decide
  have hpaths : ((oversizedRequest [0]).tokenPaths (.bucket "b") []).run World.bare =
      (.ok ["s3://b"], World.bare) := Action.run_eq_of_toOption (by decide +kernel)
  have hoversized : (oversizedRequest password).budget < 2000 := by
    change (1000 : Int) < 2000
    decide
  obtain ⟨log, hrun⟩ := run_equip_of_oversized hoversized hbudget henvironment hpaths h
  exact ⟨_, run_bind_of_error ((run_assemble_of_described hheap rfl).trans hrun) _⟩

/-- A password may decide with which mark a report quotes the credentials. -/
theorem not_sameReport_oversized : (oversizedRequest [0x27]).Alike (oversizedRequest [0x28]) ∧
    ∃ e e' w' v', (oversizedRun [0x27]).run World.bare = (.error e, w') ∧
      (oversizedRun [0x28]).run World.bare = (.error e', v') ∧ e'.message ≠ e.message := by
  have htokens : List.Forall₂ Token.Alike (oversizedRequest [0x27]).userTokens
      (oversizedRequest [0x28]).userTokens := .cons ⟨[0x28], rfl, rfl⟩ .nil
  have hservice : (secretService [3]).Alike (secretService [3]) :=
    .fixed (.cons ⟨[3], rfl, rfl⟩ .nil)
  have hmark : ((oversizedCredentials [0x27]).run World.bare).1.toOption.map Text.quotationMark =
      some '"' := by decide +kernel
  have hmark' : ((oversizedCredentials [0x28]).run World.bare).1.toOption.map Text.quotationMark =
      some '\'' := by decide +kernel
  have hheap : Text.isWritable 2000 := by decide
  obtain ⟨environment, henvironment⟩ := exists_environment hheap (oversizedRequest [0])
  have hworld : World.bare.Alike World.bare := ⟨World.bare.sessionAnswer, rfl, fun _ => .error rfl⟩
  have hpaired : Paired World.Alike World.Alike Eq TokenFile.Alike (oversizedCredentials [0x27])
      (oversizedCredentials [0x28]) := Credentials.paired_bundle hservice htokens ["s3://b"]
  obtain ⟨hbundles, -⟩ := hpaired _ _ hworld
  cases hbundle : (oversizedCredentials [0x27]).run World.bare with
  | mk result w₁ =>
    cases hbundle' : (oversizedCredentials [0x28]).run World.bare with
    | mk result' v₁ =>
      rw [hbundle] at hbundles hmark
      rw [hbundle'] at hbundles hmark'
      cases hbundles with
      | error h => cases hmark
      | @ok bytes bytes' h =>
        obtain ⟨w', hrun⟩ := run_oversizedRun henvironment hbundle
        obtain ⟨v', hrun'⟩ := run_oversizedRun henvironment hbundle'
        refine ⟨⟨_, htokens, rfl⟩, _, _, w', v', hrun, hrun', ?_⟩
        rw [Ne, AssemblyError.message_eq_iff h]
        intro hsame
        have hmarks := hsame ⟨by decide, by decide, nofun⟩
        rw [Option.some.inj hmark', Option.some.inj hmark] at hmarks
        exact absurd hmarks (by decide)

end LaunchRequest
end ClusterAgent
