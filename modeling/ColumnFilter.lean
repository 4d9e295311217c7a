import ColumnFilter.Batch.Basic
import ColumnFilter.Compile.Event
import ColumnFilter.Proofs.Domain.Combination
import ColumnFilter.Proofs.Compile.Integers
import ColumnFilter.Proofs.Compile.Floats
import ColumnFilter.Proofs.Compile.Bytes
import ColumnFilter.Proofs.Compile.Decimals
import ColumnFilter.Proofs.Compile.Faults
import ColumnFilter.Proofs.Compile.Strict
import ColumnFilter.Proofs.Compile.Errors
import ColumnFilter.Proofs.Interval.Ends
import ColumnFilter.Proofs.Interval.Levels
import ColumnFilter.Proofs.Compile.Complement
import ColumnFilter.Proofs.Interval.Boolean
import ColumnFilter.Proofs.Compile.Searchable
import ColumnFilter.Proofs.Batch.Rows
import ColumnFilter.Proofs.Compile.NullFlag
import ColumnFilter.Proofs.Compile.Connectives
import ColumnFilter.Proofs.Compile.Unvalidated
import ColumnFilter.Proofs.Batch.Constants
import ColumnFilter.Proofs.Compile.Probes
import ColumnFilter.Proofs.Filter.OrderedUnions
import ColumnFilter.Proofs.Filter.FloatUnions
import ColumnFilter.Proofs.Filter.Sets
import ColumnFilter.Proofs.Interval.Arrival
import ColumnFilter.Proofs.Interval.Gaps
import ColumnFilter.Proofs.Interval.Size
import ColumnFilter.Proofs.Compile.Exclusion
import ColumnFilter.Proofs.Integer.Words
import ColumnFilter.Proofs.Ieee.Encoding
import ColumnFilter.Proofs.Interval.CutOrder
import ColumnFilter.Proofs.Order.Scalars
import ColumnFilter.Proofs.Compile.Kinds
import ColumnFilter.Proofs.Filter.NullFlag
