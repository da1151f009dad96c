import Tarako.Library.PrefixCode
import Tarako.Library.Hex
import Tarako.Library.JsonText
import Tarako.Library.Sha256
import Tarako.Library.LucasCertificate
import Tarako.Library.ShortWeierstrass
import Tarako.Library.Ecdsa
import Tarako.Library.ByteDigits
import Tarako.Library.Der
import Tarako.Library.TextLines
import Tarako.Library.CallLog
import Tarako.Library.Transitions
import Tarako.Library.Reduction
import Tarako.Library.Lifetimes
import Tarako.Library.AppliedPi
import Tarako.Curve.P256
import Tarako.Curve.Sec1
import Tarako.Lang.Text
import Tarako.Lang.JsonString
import Tarako.Lang.PythonJson
import Tarako.Lang.FlatObject
import Tarako.Lang.PythonDecoder
import Tarako.Lang.GoDecoder
import Tarako.Lang.GoFraming
import Tarako.Driver.Vli
import Tarako.Driver.Ecc
import Tarako.Driver.Sign
import Tarako.Driver.Ioctl
import Tarako.Driver.SetOnce
import Tarako.Driver.SetOnceThreads
import Tarako.Driver.Lifecycle
import Tarako.Driver.PublicKey
import Tarako.Driver.SharedBuffer
import Tarako.Driver.ByteOrder
import Tarako.Driver.Points
import Tarako.Attester.RequestBinding
import Tarako.Attester.Quote
import Tarako.Attester.Http
import Tarako.Attester.CommandLine
import Tarako.Verifier.RequestBinding
import Tarako.Verifier.Appraisal
import Tarako.Verifier.Service
import Tarako.Verifier.OneShot
import Tarako.Verifier.Serial
import Tarako.Client.Session
import Tarako.Tdx.QgsProtocol
import Tarako.Tdx.QgsGrammar
import Tarako.Tdx.GetQuote
import Tarako.Tdx.ReceiveLoop
import Tarako.Tdx.Transaction
import Tarako.Protocol.BindingAgreement
import Tarako.Protocol.HonestRun
import Tarako.Protocol.SignedBytes
import Tarako.Protocol.System
import Tarako.Protocol.Evidence
import Tarako.Protocol.ClientAcceptance
import Tarako.Protocol.HttpRun
import Tarako.Protocol.LocalQuotes
import Tarako.Provisioning.ImaLog
import Tarako.Provisioning.Boot
import Tarako.Symbolic.Terms
import Tarako.Symbolic.Roles
import Tarako.Symbolic.Variants
import Tarako.Symbolic.Authenticity
import Tarako.Symbolic.Establishment
import Tarako.Symbolic.Integrity
import Tarako.Symbolic.Secrecy
import Tarako.Symbolic.Queries
import Tarako.Symbolic.IntactQueries
import Tarako.Library.AttackScript
import Tarako.Symbolic.NegativeControls
