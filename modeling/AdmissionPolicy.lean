import AdmissionPolicy.Check.Policy
import AdmissionPolicy.Codec.Location
import AdmissionPolicy.Policy.Text
import AdmissionPolicy.Proofs.Codec.Effect
import AdmissionPolicy.Proofs.Codec.Policy
import AdmissionPolicy.Proofs.Coverage.Exact
import AdmissionPolicy.Proofs.Coverage.Itself
import AdmissionPolicy.Proofs.Coverage.Names
import AdmissionPolicy.Proofs.Coverage.SameValues
import AdmissionPolicy.Proofs.Policy.Assembly
import AdmissionPolicy.Proofs.Policy.KindUnion
import AdmissionPolicy.Proofs.Policy.Log
import AdmissionPolicy.Proofs.Policy.Order
import AdmissionPolicy.Proofs.Policy.Shown
import AdmissionPolicy.Proofs.Rule.Scope
