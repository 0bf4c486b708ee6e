import ClauseTx.Config
import ClauseTx.Derivation.Node
import ClauseTx.Http.Script
import ClauseTx.Log
import ClauseTx.Proofs.Address.Forms
import ClauseTx.Proofs.Address.Text
import ClauseTx.Proofs.Curve.Cardinality
import ClauseTx.Proofs.Derivation.Node
import ClauseTx.Proofs.Derivation.Path
import ClauseTx.Proofs.Ecdsa.Agreement
import ClauseTx.Proofs.Ecdsa.Contract
import ClauseTx.Proofs.Ecdsa.Forms
import ClauseTx.Proofs.Ecdsa.Malleability
import ClauseTx.Proofs.Ecdsa.Uniqueness
import ClauseTx.Proofs.Ecdsa.Verification
import ClauseTx.Proofs.Fee.Client
import ClauseTx.Proofs.Fee.Conversion
import ClauseTx.Proofs.Fee.Markup
import ClauseTx.Proofs.Fee.Options
import ClauseTx.Proofs.Fee.Price
import ClauseTx.Proofs.Fee.Quantity
import ClauseTx.Proofs.Fee.Suggestion
import ClauseTx.Proofs.GasPayer.Answers
import ClauseTx.Proofs.GasPayer.Routes
import ClauseTx.Proofs.GasPayer.Service
import ClauseTx.Proofs.Json.Record
import ClauseTx.Proofs.Json.Text
import ClauseTx.Proofs.Rlp.Damage
import ClauseTx.Proofs.Rlp.FieldReader
import ClauseTx.Proofs.Rlp.Spelling
import ClauseTx.Proofs.Text.Numeral
import ClauseTx.Proofs.Text.Utf8
import ClauseTx.Proofs.Transaction.Answers
import ClauseTx.Proofs.Transaction.Binding
import ClauseTx.Proofs.Transaction.Gas
import ClauseTx.Proofs.Transaction.ReadBack
import ClauseTx.Proofs.Transaction.Rebuilding
import ClauseTx.Proofs.Transaction.SignatureShape
import ClauseTx.Proofs.Transaction.Signers
import ClauseTx.Proofs.Transaction.Validity
import ClauseTx.Proofs.Transaction.Verification
import ClauseTx.Transaction.Draft
import ClauseTx.Proofs.Transaction.TokenCall
