import NssDrv.TransmitApi

set_option autoImplicit false

/-!
# Common messages

The response word and the cores of `nss_cmn.h`. The first response is also what
`false` becomes when it is stored there.
-/
namespace NssDrv.CommonMessage

inductive NssCmnResponse where
  | NSS_CMN_RESPONSE_ACK
  | NSS_CMN_RESPONSE_EVERSION
  | NSS_CMN_RESPONSE_EINTERFACE
  | NSS_CMN_RESPONSE_ELENGTH
  | NSS_CMN_RESPONSE_EMSG
  | NSS_CMM_RESPONSE_NOTIFY
  deriving DecidableEq

inductive NssCoreId where
  | NSS_CORE_0
  | NSS_CORE_1
  deriving DecidableEq

end NssDrv.CommonMessage
