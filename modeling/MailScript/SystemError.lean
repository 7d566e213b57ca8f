import MailScript.Text.Quoted

/-! # Errors of the operating system -/

namespace MailScript

/-- The symbolic names of error numbers. -/
def systemErrorNames : List (Nat × String) :=
  [(1, "EPERM"), (2, "ENOENT"), (3, "ESRCH"), (4, "EINTR"), (5, "EIO"), (6, "ENXIO"),
   (7, "E2BIG"), (8, "ENOEXEC"), (9, "EBADF"), (10, "ECHILD"), (11, "EAGAIN"), (12, "ENOMEM"),
   (13, "EACCES"), (14, "EFAULT"), (15, "ENOTBLK"), (16, "EBUSY"), (17, "EEXIST"),
   (18, "EXDEV"), (19, "ENODEV"), (20, "ENOTDIR"), (21, "EISDIR"), (22, "EINVAL"),
   (23, "ENFILE"), (24, "EMFILE"), (25, "ENOTTY"), (26, "ETXTBSY"), (27, "EFBIG"),
   (28, "ENOSPC"), (29, "ESPIPE"), (30, "EROFS"), (31, "EMLINK"), (32, "EPIPE"), (33, "EDOM"),
   (34, "ERANGE"), (35, "EDEADLOCK"), (36, "ENAMETOOLONG"), (37, "ENOLCK"), (38, "ENOSYS"),
   (39, "ENOTEMPTY"), (40, "ELOOP"), (42, "ENOMSG"), (43, "EIDRM"), (44, "ECHRNG"),
   (45, "EL2NSYNC"), (46, "EL3HLT"), (47, "EL3RST"), (48, "ELNRNG"), (49, "EUNATCH"),
   (50, "ENOCSI"), (51, "EL2HLT"), (52, "EBADE"), (53, "EBADR"), (54, "EXFULL"),
   (55, "ENOANO"), (56, "EBADRQC"), (57, "EBADSLT"), (59, "EBFONT"), (60, "ENOSTR"),
   (61, "ENODATA"), (62, "ETIME"), (63, "ENOSR"), (64, "ENONET"), (65, "ENOPKG"),
   (66, "EREMOTE"), (67, "ENOLINK"), (68, "EADV"), (69, "ESRMNT"), (70, "ECOMM"),
   (71, "EPROTO"), (72, "EMULTIHOP"), (73, "EDOTDOT"), (74, "EBADMSG"), (75, "EOVERFLOW"),
   (76, "ENOTUNIQ"), (77, "EBADFD"), (78, "EREMCHG"), (79, "ELIBACC"), (80, "ELIBBAD"),
   (81, "ELIBSCN"), (82, "ELIBMAX"), (83, "ELIBEXEC"), (84, "EILSEQ"), (85, "ERESTART"),
   (86, "ESTRPIPE"), (87, "EUSERS"), (88, "ENOTSOCK"), (89, "EDESTADDRREQ"), (90, "EMSGSIZE"),
   (91, "EPROTOTYPE"), (92, "ENOPROTOOPT"), (93, "EPROTONOSUPPORT"), (94, "ESOCKTNOSUPPORT"),
   (95, "ENOTSUP"), (96, "EPFNOSUPPORT"), (97, "EAFNOSUPPORT"), (98, "EADDRINUSE"),
   (99, "EADDRNOTAVAIL"), (100, "ENETDOWN"), (101, "ENETUNREACH"), (102, "ENETRESET"),
   (103, "ECONNABORTED"), (104, "ECONNRESET"), (105, "ENOBUFS"), (106, "EISCONN"),
   (107, "ENOTCONN"), (108, "ESHUTDOWN"), (109, "ETOOMANYREFS"), (110, "ETIMEDOUT"),
   (111, "ECONNREFUSED"), (112, "EHOSTDOWN"), (113, "EHOSTUNREACH"), (114, "EALREADY"),
   (115, "EINPROGRESS"), (116, "ESTALE"), (117, "EUCLEAN"), (118, "ENOTNAM"), (119, "ENAVAIL"),
   (120, "EISNAM"), (121, "EREMOTEIO"), (122, "EDQUOT"), (123, "ENOMEDIUM"),
   (124, "EMEDIUMTYPE"), (125, "ECANCELED"), (126, "ENOKEY"), (127, "EKEYEXPIRED"),
   (128, "EKEYREVOKED"), (129, "EKEYREJECTED"), (130, "EOWNERDEAD"), (131, "ENOTRECOVERABLE"),
   (132, "ERFKILL")]

def systemErrorName? (number : Int) : Option String :=
  (systemErrorNames.find? fun entry => (entry.1 : Int) == number).map (·.2)

/-- The number of a symbolic name; two names of one number count as the same. -/
def systemErrorNumber? (name : String) : Option Nat :=
  match systemErrorNames.find? fun entry => entry.2 == name with
  | some entry => some entry.1
  | none => if name = "EWOULDBLOCK" then some 11 else none

/-- An error of the operating system: a bare text, or a number with a text and perhaps a path. -/
inductive SystemError where
  | stated (text : String)
  | numbered (number : Int) (text : String) (path : Option String)
deriving DecidableEq, Repr, Inhabited

namespace SystemError

/-- No file or directory has the path. -/
def notFound (path : String) : SystemError :=
  .numbered 2 "No such file or directory" (some path)

/-- A directory was needed on the way along the path. -/
def notDirectory (path : String) : SystemError :=
  .numbered 20 "Not a directory" (some path)

/-- A file was needed at the end of the path. -/
def isDirectory (path : String) : SystemError :=
  .numbered 21 "Is a directory" (some path)

/-- The path or a part of it is too long. -/
def nameTooLong (path : String) : SystemError :=
  .numbered 36 "File name too long" (some path)

def message : SystemError → String
  | .stated text => text
  | .numbered number text none => "[Errno " ++ toString number ++ "] " ++ text
  | .numbered number text (some path) =>
    "[Errno " ++ toString number ++ "] " ++ text ++ ": " ++ Text.quoted path

/-- The name of the class that a number belongs to. -/
def typeName : SystemError → String
  | .stated _ => "OSError"
  | .numbered number _ _ =>
    if [11, 114, 115].contains number then "BlockingIOError"
    else if [32, 108].contains number then "BrokenPipeError"
    else if number = 10 then "ChildProcessError"
    else if number = 103 then "ConnectionAbortedError"
    else if number = 111 then "ConnectionRefusedError"
    else if number = 104 then "ConnectionResetError"
    else if number = 17 then "FileExistsError"
    else if number = 2 then "FileNotFoundError"
    else if number = 4 then "InterruptedError"
    else if number = 21 then "IsADirectoryError"
    else if number = 20 then "NotADirectoryError"
    else if [1, 13].contains number then "PermissionError"
    else if number = 3 then "ProcessLookupError"
    else if number = 110 then "TimeoutError"
    else "OSError"

/-- The operation may be tried again at once or a little later. -/
def isRetry : SystemError → Bool
  | .stated _ => false
  | .numbered number _ _ => [4, 11, 114, 115].contains number

end SystemError

end MailScript
