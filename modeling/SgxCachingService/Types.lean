/-
  SGX caching service: the data model.

  The seven tables of the repository (`types.Platform`, `PlatformTcb`, `PckCertChain`,
  `PckCert`, `PckCrl`, `FmspcTcbInfo`, `QEIdentity`), the JSON shapes the handlers decode
  (`PlatformInfo`, `PckCertsInfo`, `TcbLevels`, `TcbInfoJSON`), the upstream HTTP response,
  what a handler leaves on the wire, and the constants of `constants.go` the handlers read.

  A `time.Time` is a count of seconds; `0` is Go's zero value `time.Time{}`, which is what a
  struct built without setting the field carries. Only the fields that some modelled
  function reads or writes are kept.
-/
import Mathlib.Data.List.Basic

namespace SgxCachingService

/-! ## Constants -/

/-- `constants.MaxTcbLevels`: the number of SGX TCB component SVNs. -/
def maxTcbLevels : Nat := 16

/-- The keys of `regExMap`: the values of `constants.EncPPID_Key` and the rest. The handlers
name them `constants.EncPPIDKey` and so on, which the repository does not define. -/
def encPPIDKey : String := "encrypted_ppid"
def cpuSvnKey : String := "cpu_svn"
def pceSvnKey : String := "pce_svn"
def pceIDKey : String := "pce_id"
def qeIDKey : String := "qe_id"
def caKey : String := "ca"
def typeKey : String := "type"
def fmspcKey : String := "fmspc"

/-- `constants.Type_Refresh_Cert` and `constants.Type_Refresh_Tcb`: the two timer tasks. -/
def typeRefreshCert : String := "certs"
def typeRefreshTcb : String := "tcbs"

/-- `constants.EncodingValue`, the `encoding` query parameter of `/pckcrl` (§4.1: `der`). -/
def encodingValue : String := "der"

/-- `http.StatusOK` and the other statuses the handlers answer with. -/
def statusOK : Nat := 200
def statusCreated : Nat := 201
def statusBadRequest : Nat := 400
def statusNotFound : Nat := 404
def statusInternalServerError : Nat := 500

/-- `constants.CacheType`: `CacheInsert` selects `Create`, `CacheRefresh` selects `Update`. -/
inductive CacheType where
  | cacheInsert
  | cacheRefresh
  deriving DecidableEq, Repr

/-! ## Tables -/

/-- `types.Platform`, keyed by `QeID`. -/
structure Platform where
  qeID : String
  encppid : String
  cpuSvn : String
  pceSvn : String
  pceID : String
  manifest : String
  fmspc : String
  createdTime : Nat
  updatedTime : Nat
  deriving DecidableEq, Repr

/-- `types.PlatformTcb`, keyed by `QeId`. -/
structure PlatformTcb where
  qeID : String
  pceID : String
  cpuSvn : String
  pceSvn : String
  tcbm : String
  createdTime : Nat
  updatedTime : Nat
  deriving DecidableEq, Repr

/-- `types.PckCertChain`; its `ID` is assigned by the database on `Create`. -/
structure PckCertChain where
  id : Nat
  pckCertChain : String
  createdTime : Nat
  updatedTime : Nat
  deriving DecidableEq, Repr

/-- `types.PckCert`, keyed by `QeID`. `CertIndex` is a `uint8`. -/
structure PckCert where
  qeID : String
  pceID : String
  fmspc : String
  pckCerts : List String
  tcbms : List String
  certIndex : UInt8
  pckCertChainID : Nat
  createdTime : Nat
  updatedTime : Nat
  deriving DecidableEq, Repr

/-- `types.PckCrl`, keyed by the CA type `Ca`. -/
structure PckCrl where
  ca : String
  pckCrl : String
  pckCrlCertChain : String
  createdTime : Nat
  updatedTime : Nat
  deriving DecidableEq, Repr

/-- `types.FmspcTcbInfo`, keyed by `Fmspc`. -/
structure FmspcTcbInfo where
  fmspc : String
  tcbInfo : String
  tcbInfoIssuerChain : String
  createdTime : Nat
  updatedTime : Nat
  deriving DecidableEq, Repr

/-- `types.QEIdentity`, the singleton table. -/
structure QEIdentity where
  qeInfo : String
  qeIssuerChain : String
  createdTime : Nat
  updatedTime : Nat
  deriving DecidableEq, Repr

/-! ## Request and response bodies -/

/-- `PlatformInfo`: the JSON body of `POST /platforms`. -/
structure PlatformInfo where
  encPpid : String
  cpuSvn : String
  pceSvn : String
  pceID : String
  qeID : String
  manifest : String
  deriving DecidableEq, Repr

/-- `TcbLevels`: the sixteen `sgxtcbcompNNsvn` bytes and the `pcesvn` of one TCB level. -/
structure TcbLevels where
  sgxTcbComp01Svn : UInt8
  sgxTcbComp02Svn : UInt8
  sgxTcbComp03Svn : UInt8
  sgxTcbComp04Svn : UInt8
  sgxTcbComp05Svn : UInt8
  sgxTcbComp06Svn : UInt8
  sgxTcbComp07Svn : UInt8
  sgxTcbComp08Svn : UInt8
  sgxTcbComp09Svn : UInt8
  sgxTcbComp10Svn : UInt8
  sgxTcbComp11Svn : UInt8
  sgxTcbComp12Svn : UInt8
  sgxTcbComp13Svn : UInt8
  sgxTcbComp14Svn : UInt8
  sgxTcbComp15Svn : UInt8
  sgxTcbComp16Svn : UInt8
  pceSvn : UInt16
  deriving DecidableEq, Repr

/-- `TcbLevelsType`: one entry of `tcbLevels`. -/
structure TcbLevelsType where
  tcb : TcbLevels
  tcbStatus : String
  deriving DecidableEq, Repr

/-- `TcbInfoType`. -/
structure TcbInfoType where
  tcbLevels : List TcbLevelsType
  deriving DecidableEq, Repr

/-- `TcbInfoJSON`: the TCB info as PCS serves it. -/
structure TcbInfoJSON where
  tcbInfo : TcbInfoType
  deriving DecidableEq, Repr

/-- `PckCertsInfo`: one entry of the `/pckcerts` array. -/
structure PckCertsInfo where
  tcbm : String
  cert : String
  deriving DecidableEq, Repr

/-- `Response`: the JSON object the handlers write. -/
structure Response where
  status : String
  message : String
  deriving DecidableEq, Repr

/-- An upstream `*http.Response`. `header` holds canonical keys; `contentLength` is `-1`
when unknown; `body` is `none` when `ioutil.ReadAll` of the body fails. -/
structure HttpResponse where
  statusCode : Nat
  header : List (String × String)
  contentLength : Int
  body : Option String
  deriving DecidableEq, Repr

/-- What a handler leaves on the wire: the status and `Response` it wrote itself, or the
`resourceError` it returned for the router to write. -/
inductive Reply where
  | written (status : Nat) (res : Response)
  | resourceError (message : String) (status : Nat)
  deriving DecidableEq, Repr

end SgxCachingService
