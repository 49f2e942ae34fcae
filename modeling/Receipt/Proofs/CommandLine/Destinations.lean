import Receipt.CommandLine.Run
import Receipt.Proofs.CommandLine.Words
import Receipt.Proofs.Session.Delivery

/-!
# A job in a file and on a printer

A job can be recorded and written to a file at its end, or sent piece by piece to the same file as
to a printer.  Both come to the same: what a job asks of its sink does not depend on the sink, all
of it is sent by its end, and what is sent goes to the file without a gap.  Opening the file at the
start plays no part as long as the profile is not read from it.
-/

set_option autoImplicit false

namespace Receipt

namespace FileStore

variable {store : FileStore} {path : String} {place : Place}

/-- Where a file can be made, a write replaces what was there. -/
theorem write_of_opensFile (opens : store.OpensFile path place) (bytes : List UInt8) :
    store.write path bytes = .ok (store.set place (.file (Content.empty.overwrite 0 bytes))) := by
  obtain ⟨way, opened, named, -, created, regular⟩ := opens
  obtain ⟨-, -, -, rfl, -⟩ := create_eq_ok created regular
  have written : (store.set place (.file .empty)).writeAt ⟨place, 0⟩ bytes =
      .ok (_, ⟨place, 0 + bytes.length⟩) :=
    writeAt_of_file bytes regular
  simp only [write, named, created, written, set_set]
  rfl

end FileStore

/-- A printer that is a file is opened with nothing written. -/
theorem DeviceSink.connect_of_opensFile {store : FileStore} {path : String} {place : Place}
    (opens : store.OpensFile path place) :
    ∃ sink, connect store path = .ok sink ∧ sink.store = store.set place (.file .empty) ∧
      WritesTo store place [] sink := by
  obtain ⟨way, opened, named, outside, created, regular⟩ := opens
  obtain ⟨-, -, -, rfl, -⟩ := FileStore.create_eq_ok created regular
  refine ⟨⟨store.set place (.file .empty), some ⟨place, 0⟩, .empty, usualChunkSize, by decide⟩,
    ?_, rfl, [], rfl, rfl, rfl⟩
  simp only [connect, openPath, named, outside, created, Bool.false_eq_true, if_false]

namespace CommandLine

/-- Whether two runs agree on a file: both end well without a word and leave the same bytes in it,
or both fail for the same reason. -/
def AgreeOn (path : String) (first second : Ending × FileStore) : Prop :=
  (first.1 = .done [] ∧ second.1 = .done [] ∧
      ∃ bytes, first.2.read path = .ok bytes ∧ second.2.read path = .ok bytes) ∨
    ∃ failure, first.1 = .failed failure ∧ second.1 = .failed failure

/-- The jobs of a command line. -/
inductive Job where
  | document (text : List Char) (finish : Finish) (strips : Bool) (feed : Number.Single)
  | tables (ids : List UInt8)

/-- The job that prints a document, as what happens after printing says. -/
def Finish.job (text : List Char) (feed : Number.Single) : Finish → PrintJob
  | .nothing => .byMm text feed
  | .cut => .andCut text feed
  | .openDrawer => .andOpenDrawer text feed

namespace Job

/-- The job itself. -/
def run {σ : Type} [Sink σ] : Job → Action σ Unit
  | document text finish strips feed => printJob text finish strips feed
  | tables ids => charsetsJob ids

/-- Whether the job prints images as strips. -/
def strips : Job → Bool
  | document _ _ strips _ => strips
  | tables _ => false

/-- The outputs of the job, or why its document cannot be read.  No tables stand for all of them. -/
def outputs (profile : Profile) : Job → Except Failure (List Output)
  | document text finish _ feed =>
    (finish.job text feed).outputs profile <$> Markup.Document.parse profile Qr.encode text
  | tables ids => .ok ((if ids.isEmpty then Action.allBytes else ids).map .table)

/-- A job makes its outputs, whatever sink it starts with. -/
theorem run_start {σ : Type} [Sink σ] (job : Job) (profile : Profile) (sink : σ) :
    job.run (Session.start profile sink) =
      match job.outputs profile with
      | .ok outputs => Output.runAll outputs ((Session.start profile sink).useStrips job.strips)
      | .error failure => .error failure ((Session.start profile sink).useStrips job.strips) := by
  cases job with
  | document text finish strips feed =>
      have started : (document text finish strips feed).run (Session.start profile sink) =
          (finish.job text feed).run ((Session.start profile sink).useStrips strips) := by
        cases finish <;> rfl
      have same_text : (finish.job text feed).text = text := by
        cases finish <;> rfl
      rw [started, outputs]
      cases parsed : Markup.Document.parse profile Qr.encode text with
      | error failure => exact PrintJob.run_of_parse_error _ (same_text.symm ▸ parsed)
      | ok lines => exact PrintJob.run_of_parse_ok _ (same_text.symm ▸ parsed)
  | tables ids =>
      have listed : ((tables ids).run : Action σ Unit) =
          Action.printTables (if ids.isEmpty then Action.allBytes else ids) := by
        rw [run, charsetsJob]
        split <;> rfl
      rw [listed]
      exact (congrFun (Action.forM_map _ Output.table Output.run) (Session.start profile sink)).symm

/-- The outputs of a job end with one that ends with a send. -/
theorem exists_last {job : Job} {profile : Profile} {all : List Output}
    (listed : job.outputs profile = .ok all) :
    ∃ front last, all = front ++ [last] ∧ last.SendsLast := by
  cases job with
  | document text finish strips feed =>
      obtain ⟨lines, -, rfl⟩ := Result.map_eq_ok.mp listed
      obtain ⟨front, last, ended, sends⟩ := (finish.job text feed).exists_last profile lines
      exact ⟨front, last, ended, sends.sendsLast⟩
  | tables ids =>
      cases listed
      have some_table : (if ids.isEmpty then Action.allBytes else ids) ≠ [] := by
        cases ids with
        | nil => exact List.ne_nil_of_length_pos (by simp [Action.allBytes])
        | cons first rest => exact List.cons_ne_nil first rest
      rw [← List.dropLast_concat_getLast some_table]
      exact ⟨_, .table _, List.map_append, Output.sendsLast_table _⟩

/-- Nothing waits in a device sink behind a whole job. -/
theorem pending_eq_nil {job : Job} {profile : Profile} {sink : DeviceSink}
    {next : Session DeviceSink} (connected : Sink.isConnected sink = true)
    (printed : job.run (Session.start profile sink) = .ok () next) : next.sink.pending = [] := by
  rw [run_start] at printed
  cases listed : job.outputs profile with
  | error failure =>
      rw [listed] at printed
      cases printed
  | ok all =>
      rw [listed] at printed
      obtain ⟨front, last, rfl, sends⟩ := exists_last listed
      have reached : ((Session.start profile sink).useStrips job.strips).isConnected = true :=
        connected
      exact DeviceSink.pending_of_runAll sends reached printed

end Job

namespace Target

variable {store : FileStore} {path : String} {place : Place} {target : Target}

/-- The profile of a target does not depend on a file that its own keeps away from. -/
theorem profile_set
    (keeps : ∀ file, target.profileFile = some file → store.KeepsFrom file place)
    (opens : store.OpensFile path place) (content : Content) :
    target.profile (store.set place (.file content)) = target.profile store := by
  obtain ⟨way, opened, -, -, created, regular⟩ := opens
  obtain ⟨-, -, -, -, stood⟩ := FileStore.create_eq_ok created regular
  unfold profile
  cases named : target.profileFile with
  | none => rfl
  | some file => simp only [FileStore.readText_set (keeps file named) stood]

/-- A job leaves the same in a file that it is sent to as in one that its record is written to, or
fails for the same reason. -/
theorem agreeOn (job : Job) (opens : store.OpensFile path place)
    (keeps : ∀ file, target.profileFile = some file → store.KeepsFrom file place) :
    AgreeOn path (target.writeFile path job.run store) (target.usePrinter path job.run store) := by
  obtain ⟨sink, connected, stored, fresh⟩ := DeviceSink.connect_of_opensFile opens
  have nested : place ≠ [] := by
    obtain ⟨way, opened, -, -, -, regular⟩ := opens
    exact FileStore.ne_nil_of_entry? regular (by simp)
  have takes : Sink.Takes (DeviceSink.WritesTo store place) := DeviceSink.takes nested
  -- Opening the printer empties its file before the profile is read.
  have same_profile := profile_set keeps opens .empty
  unfold writeFile usePrinter
  simp only [connected, stored, same_profile]
  cases target.profile store with
  | error failure => exact Or.inr ⟨failure, rfl, rfl⟩
  | ok profile =>
      simp only [EStateM.run, Job.run_start]
      cases listed : job.outputs profile with
      | error failure => exact Or.inr ⟨failure, rfl, rfl⟩
      | ok all =>
          have empty : Recorder.Holds [] Recorder.fresh := ⟨rfl, rfl⟩
          rcases Recorder.takes.runAll_agree takes all
              ((Session.start profile Recorder.fresh).useStrips job.strips)
              ((Session.start profile sink).useStrips job.strips) rfl rfl rfl empty fresh with
            ⟨plan, next, last, recorded, printed, ⟨-, stream⟩, sent, file, -, whole⟩ |
            ⟨failure, left, remaining, recorded, printed⟩
          · have printed_job : job.run (Session.start profile sink) = .ok () last := by
              rw [Job.run_start, listed]
              exact printed
            have nothing := Job.pending_eq_nil (takes.isConnected fresh) printed_job
            rw [nothing, List.append_nil] at whole
            subst whole
            simp only [recorded, printed, FileStore.write_of_opensFile opens, stream]
            -- Both stores are the old one with the same file.
            have read_back := FileStore.read_set_of_opensFile opens
              (Content.empty.overwrite 0 ([] ++ plan.bytes))
            refine Or.inl ⟨rfl, rfl, _, read_back, ?_⟩
            change last.sink.store.read path = _
            rw [file, read_back]
          · simp only [recorded, printed]
            exact Or.inr ⟨failure, rfl, rfl⟩

end Target

section

variable {store : FileStore} {path : String} {place : Place}

/-- A request for a file and the same request for a device agree on what stands there. -/
theorem Request.agreeOn {request : Request} {target : Target}
    (aimed : request.target? = some target) (opens : store.OpensFile path place)
    (keeps : ∀ file, target.profileFile = some file → store.KeepsFrom file place) :
    AgreeOn path ((request.sendTo (.file path)).run store)
      ((request.sendTo (.printer path)).run store) := by
  cases request with
  | print file asked finish strips feed =>
      cases aimed
      simp only [sendTo, run]
      cases store.readText file with
      | error fault => exact Or.inr ⟨.file fault, rfl, rfl⟩
      | ok text =>
          exact @Target.agreeOn _ _ _ (target.sendTo (.file path))
            (.document text finish strips feed) opens keeps
  | charsets ids asked =>
      cases aimed
      exact @Target.agreeOn _ _ _ (target.sendTo (.file path)) (.tables ids) opens keeps
  | image file profileName gradient => cases aimed
  | version => cases aimed
  | help topic => cases aimed

/-- Another destination changes nothing else of what a request aims at. -/
theorem Request.target?_sendTo (request : Request) (destination : Destination) :
    (request.sendTo destination).target? = request.target?.map (Target.sendTo destination) := by
  cases request <;> rfl

/-- A command line does what its request does, and nothing when it makes none. -/
theorem run_eq_elim (arguments : List String) (store : FileStore) :
    run arguments store =
      (Request.ofArguments? arguments).elim (.misused, store) (fun request => request.run store) := by
  rw [run]
  cases Request.ofArguments? arguments <;> rfl

/-- A file and a printer come to the same.  Let a path outside the directory of devices open a file
at some place.  A command line that prints a document or tables is understood for that path as a
file exactly if it is for the path as a printer, wherever it stands among the words.  Unless the
profile is read from that file, or from behind it when it is still to be made, both runs then leave
the same bytes in it or fail for the same reason.  The same holds of the requests that command lines
make.  A job that succeeds leaves nothing waiting on a printer, whatever the size of its chunks, so
that giving up the connection drops nothing.  The size of chunks does not matter to what is
written. -/
theorem destinations_agree (opens : store.OpensFile path place) :
    (∀ (command : String) (front back : List String), command = "print" ∨ command = "charsets" →
      Words.beforeHelp? (front ++ "--device" :: path :: back) = none →
      (∀ request target file,
        Request.ofArguments? (command :: (front ++ "--device" :: path :: back)) = some request →
        request.target? = some target → target.profileFile = some file →
          store.KeepsFrom file place) →
      let output := run (command :: (front ++ "--output" :: path :: back)) store
      let device := run (command :: (front ++ "--device" :: path :: back)) store
      (output = (.misused, store) ∧ device = (.misused, store)) ∨ AgreeOn path output device) ∧
    (∀ (request : Request) (target : Target), request.target? = some target →
      (∀ file, target.profileFile = some file → store.KeepsFrom file place) →
      AgreeOn path ((request.sendTo (.file path)).run store)
        ((request.sendTo (.printer path)).run store)) ∧
    (∀ (job : Job) (profile : Profile) (sink : DeviceSink) (next : Session DeviceSink),
      Sink.isConnected sink = true → job.run (Session.start profile sink) = .ok () next →
        next.sink.pending = [] ∧ next.disconnect.sink.store = next.sink.store) ∧
    ∀ (files : FileStore) (handle : FileHandle) (size : Nat) (pos : 0 < size) (bytes : List UInt8),
      DeviceSink.writeChunks files handle (DeviceSink.chunks size pos bytes) =
        match files.writeAt handle bytes with
        | .ok (written, moved) => (.ok (), written, moved)
        | .error fault => (.error fault, files, handle) := by
  refine ⟨?_, fun request target aimed keeps => request.agreeOn aimed opens keeps, ?_,
    DeviceSink.writeChunks_chunks⟩
  -- Both command lines make the same request but for its destination.
  · intro command front back job unaided keeps output device
    obtain ⟨asked, as_output, as_device, aimed⟩ :=
      Request.exists_asked job front back path unaided
    have output_eq : output = _ := run_eq_elim _ store
    have device_eq : device = _ := run_eq_elim _ store
    rw [as_output] at output_eq
    rw [as_device] at device_eq
    cases asked with
    | none => exact Or.inl ⟨output_eq, device_eq⟩
    | some request =>
        obtain ⟨target, found⟩ := Option.isSome_iff_exists.mp (aimed request rfl)
        rw [output_eq, device_eq]
        refine Or.inr (request.agreeOn found opens ?_)
        intro file named
        have printer : (request.sendTo (.printer path)).target? =
            some (target.sendTo (.printer path)) := by
          rw [Request.target?_sendTo, found]
          rfl
        exact keeps _ _ file as_device printer named
  · intro job profile sink next connected printed
    exact ⟨Job.pending_eq_nil connected printed, rfl⟩

/-- A store with a document, which is a bar code, a profile and an older file. -/
def counter : FileStore :=
  let file (text : String) : FileEntry :=
    .file (Content.empty.overwrite 0 (Bytes.ofText text.toList))
  ((FileStore.initial.set ["tmp", "work", "r.txt"]
    (file "<barcode type='ean8'>1234567</barcode>")).set
      ["tmp", "work", "p.json"] (file "[203,48,32,null]")).set
        ["tmp", "work", "o.bin"] (file "older")

/-- The words behind the destination: the profile comes from a file, and what waits behind the bar
code is sent without a feed, before the cut. -/
def counterWords : List String :=
  ["--profile-file", "p.json", "--feed-mm", "0", "--cut"]

/-- The bar code replaces the older file in both ways. -/
theorem destinations_agree_counter :
    let output := run ("print" :: (["r.txt"] ++ "--output" :: "o.bin" :: counterWords)) counter
    let device := run ("print" :: (["r.txt"] ++ "--device" :: "o.bin" :: counterWords)) counter
    let bytes : List UInt8 := [0x1b, 0x40, 0x1b, 0x61, 0x00, 0x1d, 0x48, 0x02, 0x1d, 0x77, 0x04,
      0x1d, 0x68, 0x50, 0x1d, 0x6b, 0x44, 0x08, 0x31, 0x32, 0x33, 0x34, 0x35, 0x36, 0x37, 0x30,
      0x1d, 0x56, 0x01]
    output.1 = .done [] ∧ device.1 = .done [] ∧ output.2.read "o.bin" = .ok bytes ∧
      device.2.read "o.bin" = .ok bytes := by
  intro output device bytes
  have opens : counter.OpensFile "o.bin" ["tmp", "work", "o.bin"] :=
    ⟨⟨false, [.down "o.bin"], false⟩, counter.set ["tmp", "work", "o.bin"] (.file .empty),
      by decide +kernel, by decide, by decide +kernel, by decide +kernel⟩
  have parsed : (Request.ofArguments?
      ("print" :: (["r.txt"] ++ "--device" :: "o.bin" :: counterWords))).bind Request.target? =
        some ⟨"58mm", some "p.json", .printer "o.bin"⟩ := by
    decide +kernel
  have stands : counter.entry? ["tmp", "work", "o.bin"] ≠ none := by decide +kernel
  have elsewhere : counter.goal "p.json" ≠ .ok ["tmp", "work", "o.bin"] := by decide +kernel
  have agree := (destinations_agree opens).1 "print" ["r.txt"] counterWords (Or.inl rfl)
    (by decide) (by
      intro request target file asked aimed named
      rw [asked, Option.bind_some, aimed] at parsed
      cases parsed
      cases named
      exact ⟨elsewhere, fun none => absurd none stands⟩)
  have ended : output.1 = .done [] := by decide +kernel
  have known : output.2.read "o.bin" = .ok bytes := by decide +kernel
  rcases agree with ⟨misused, -⟩ | ⟨-, device_ended, left, on_output, on_device⟩ |
    ⟨failure, failed, -⟩
  · have both : output = (.misused, counter) := misused
    rw [both] at ended
    cases ended
  · have same : Except.ok bytes = (.ok left : Except FileFault (List UInt8)) :=
      known.symm.trans on_output
    cases same
    exact ⟨ended, device_ended, known, on_device⟩
  · have refused : output.1 = .failed failure := failed
    rw [refused] at ended
    cases ended

end

end CommandLine

end Receipt
