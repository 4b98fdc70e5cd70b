import ScriptSandbox.Wasi.Domain

/-!
# The host functions

The functions that a guest may import, all from one place, with their parameters and types.

## Main definitions

* `Wasi.Function`: the host functions
* `Wasi.Param`: what a parameter takes
* `Wasi.Function.ofName?`: the function with a name
* `Wasi.Function.params`: the parameters of a function
* `Wasi.Function.type`: the type of a function
-/

namespace ScriptSandbox.Wasi

open Wasm (FuncType ValType Value)

/-- The place that host functions are imported from. -/
def origin : String := "wasi_snapshot_preview1"

/-- The host functions. -/
inductive Function where
  | argsGet
  | argsSizesGet
  | environGet
  | environSizesGet
  | clockResGet
  | clockTimeGet
  | fdAdvise
  | fdAllocate
  | fdClose
  | fdDatasync
  | fdFdstatGet
  | fdFdstatSetFlags
  | fdFdstatSetRights
  | fdFilestatGet
  | fdFilestatSetSize
  | fdFilestatSetTimes
  | fdPread
  | fdPrestatGet
  | fdPrestatDirName
  | fdPwrite
  | fdRead
  | fdReaddir
  | fdRenumber
  | fdSeek
  | fdSync
  | fdTell
  | fdWrite
  | pathCreateDirectory
  | pathFilestatGet
  | pathFilestatSetTimes
  | pathLink
  | pathOpen
  | pathReadlink
  | pathRemoveDirectory
  | pathRename
  | pathSymlink
  | pathUnlinkFile
  | pollOneoff
  | procExit
  | procRaise
  | schedYield
  | randomGet
  | sockAccept
  | sockRecv
  | sockSend
  | sockShutdown
  deriving Repr, DecidableEq, Inhabited

/-- What a parameter takes. -/
inductive Param where
  /-- Any number of 32 bits. -/
  | word
  /-- Any number of 64 bits. -/
  | long
  /-- A code of a domain. -/
  | code (d : Domain)
  deriving Repr, DecidableEq

/-- The type of a parameter. -/
def Param.valType : Param → ValType
  | .word => .i32
  | .long => .i64
  | .code d => if d.bits ≤ 32 then .i32 else .i64

/-- Succeeds if a parameter takes a value. -/
def Param.check : Param → Value → Except (Domain × CodeError) Unit
  | .code d, .i32 v => (d.check v.toInt32.toInt).mapError (d, ·)
  | .code d, .i64 v => (d.check v.toInt64.toInt).mapError (d, ·)
  | _, _ => .ok ()

namespace Function

/-- Four-byte parameters. -/
def words (n : Nat) : List Param := List.replicate n .word

/-- Every function with its name and parameters. -/
def signatures : List (String × Function × List Param) :=
  [("args_get", .argsGet, words 2),
   ("args_sizes_get", .argsSizesGet, words 2),
   ("environ_get", .environGet, words 2),
   ("environ_sizes_get", .environSizesGet, words 2),
   ("clock_res_get", .clockResGet, [.code .clockId, .word]),
   ("clock_time_get", .clockTimeGet, [.code .clockId, .long, .word]),
   ("fd_advise", .fdAdvise, [.word, .long, .long, .code .advice]),
   ("fd_allocate", .fdAllocate, [.word, .long, .long]),
   ("fd_close", .fdClose, words 1),
   ("fd_datasync", .fdDatasync, words 1),
   ("fd_fdstat_get", .fdFdstatGet, words 2),
   ("fd_fdstat_set_flags", .fdFdstatSetFlags, [.word, .code .fdFlags]),
   ("fd_fdstat_set_rights", .fdFdstatSetRights, [.word, .code .rights, .code .rights]),
   ("fd_filestat_get", .fdFilestatGet, words 2),
   ("fd_filestat_set_size", .fdFilestatSetSize, [.word, .long]),
   ("fd_filestat_set_times", .fdFilestatSetTimes, [.word, .long, .long, .code .fstFlags]),
   ("fd_pread", .fdPread, [.word, .word, .word, .long, .word]),
   ("fd_prestat_get", .fdPrestatGet, words 2),
   ("fd_prestat_dir_name", .fdPrestatDirName, words 3),
   ("fd_pwrite", .fdPwrite, [.word, .word, .word, .long, .word]),
   ("fd_read", .fdRead, words 4),
   ("fd_readdir", .fdReaddir, [.word, .word, .word, .long, .word]),
   ("fd_renumber", .fdRenumber, words 2),
   ("fd_seek", .fdSeek, [.word, .long, .code .whence, .word]),
   ("fd_sync", .fdSync, words 1),
   ("fd_tell", .fdTell, words 2),
   ("fd_write", .fdWrite, words 4),
   ("path_create_directory", .pathCreateDirectory, words 3),
   ("path_filestat_get", .pathFilestatGet, [.word, .code .lookupFlags, .word, .word, .word]),
   ("path_filestat_set_times", .pathFilestatSetTimes,
     [.word, .code .lookupFlags, .word, .word, .long, .long, .code .fstFlags]),
   ("path_link", .pathLink,
     [.word, .code .lookupFlags, .word, .word, .word, .word, .word]),
   ("path_open", .pathOpen,
     [.word, .code .lookupFlags, .word, .word, .code .oFlags, .code .rights, .code .rights,
      .code .fdFlags, .word]),
   ("path_readlink", .pathReadlink, words 6),
   ("path_remove_directory", .pathRemoveDirectory, words 3),
   ("path_rename", .pathRename, words 6),
   ("path_symlink", .pathSymlink, words 5),
   ("path_unlink_file", .pathUnlinkFile, words 3),
   ("poll_oneoff", .pollOneoff, words 4),
   ("proc_exit", .procExit, words 1),
   ("proc_raise", .procRaise, [.code .signal]),
   ("sched_yield", .schedYield, words 0),
   ("random_get", .randomGet, words 2),
   ("sock_accept", .sockAccept, [.word, .code .fdFlags, .word]),
   ("sock_recv", .sockRecv, [.word, .word, .word, .code .riFlags, .word, .word]),
   ("sock_send", .sockSend, [.word, .word, .word, .code .siFlags, .word]),
   ("sock_shutdown", .sockShutdown, [.word, .code .sdFlags])]

/-- The function with a name. -/
def ofName? (name : String) : Option Function := (signatures.lookup name).map (·.1)

/-- The name of a function. -/
def name (f : Function) : String :=
  match signatures.find? (·.2.1 = f) with
  | some (name, _, _) => name
  | none => ""

/-- The parameters of a function. -/
def params (f : Function) : List Param :=
  match signatures.find? (·.2.1 = f) with
  | some (_, _, ps) => ps
  | none => []

/-- The type of a function. All but one give the number of an error, or zero. -/
def type (f : Function) : FuncType :=
  ⟨f.params.map Param.valType, if f = .procExit then [] else [.i32]⟩

end Function

end ScriptSandbox.Wasi
