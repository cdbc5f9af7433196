import TypeFlow.Cascade.Bench
import TypeFlow.Session.Run
import TypeFlow.Proofs.Confluence
import TypeFlow.Proofs.BothEnds
import TypeFlow.Proofs.VariableNames
import TypeFlow.Proofs.VariableDeletion
import TypeFlow.Proofs.Disposal
import TypeFlow.Proofs.GuardDiscipline
import TypeFlow.Proofs.AuditedOperations
import TypeFlow.Proofs.Repeating
import TypeFlow.Proofs.RegistryScripts
import TypeFlow.Proofs.ChainPropagation
import TypeFlow.Proofs.PatternSearch
import TypeFlow.Proofs.SlotIdentity
import TypeFlow.Proofs.StaticWiring
