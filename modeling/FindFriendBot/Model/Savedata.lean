import FindFriendBot.Lib.OrderedMap
import FindFriendBot.Model.Bytes

/-!
# FindFriendBot — the savedata file

`update_savedata_file` writes toxcore's state to `save_data_tmp_file` and renames
it to `save_data_file`, which `create_tox` reads at the next start. The file
system maps names to contents, and `SaveFaults` says how the calls of one update
end. None of their results is looked at. The process may stop after any call, so
the update gives the file system after each of them; `none` is undefined
behaviour.
-/

namespace FindFriendBot

abbrev FileSystem := Std.ExtTreeMap Bytes Bytes

/-- `rename(2)`; two names of one file are left alone. -/
def FileSystem.rename (fs : FileSystem) (old new : Bytes) : FileSystem :=
  match fs[old]? with
  | none => fs
  | some content => if old = new then fs else (fs.erase old).insert new content

/-- The file names of `Conf`. -/
structure SavePaths where
  saveDataFile : Bytes
  saveDataTmpFile : Bytes

/-- How the calls of one update end: whether `fopen` returns a stream, how many bytes
`fwrite` writes, whether `fclose` succeeds or how much it leaves of them, and whether
`rename` succeeds. -/
structure SaveFaults where
  fopen : Bool
  fwrite : Nat
  fclose : Option Nat
  rename : Bool

/-- What `fwrite` writes of the savedata. -/
def SaveFaults.written (faults : SaveFaults) (savedata : Bytes) : Bytes :=
  savedata.take faults.fwrite

/-- What is in the file once `fclose` has returned. -/
def SaveFaults.closed (faults : SaveFaults) (savedata : Bytes) : Bytes :=
  match faults.fclose with
  | none => faults.written savedata
  | some n => (faults.written savedata).take n

/-- `Assisant::update_savedata_file`: the file system after `fopen`, `fwrite`, `fclose` and
`rename`. -/
def Assisant.updateSavedataFile (paths : SavePaths) (savedata : Bytes) (faults : SaveFaults)
    (fs : FileSystem) : Option (List FileSystem) :=
  if faults.fopen then
    -- "wb" truncates the file or creates it
    let opened := fs.insert paths.saveDataTmpFile []
    let written := opened.insert paths.saveDataTmpFile (faults.written savedata)
    let closed := written.insert paths.saveDataTmpFile (faults.closed savedata)
    let renamed :=
      if faults.rename then FileSystem.rename closed paths.saveDataTmpFile paths.saveDataFile
      else closed
    some [opened, written, closed, renamed]
  else none -- fwrite to a null stream

/-- `Bot::create_tox`: the bytes handed to `tox_new`, if the file can be opened. -/
def Bot.createTox (paths : SavePaths) (fopen : Bool) (fs : FileSystem) : Option Bytes :=
  if fopen then
    match fs[paths.saveDataFile]? with
    | none => none
    | some content =>
      let fsize := content.length
      some (content.take fsize)
  else none

end FindFriendBot
