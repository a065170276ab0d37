/-!
# Amount

The texts of the modules with exact numbers, with averages and with chance. Every line of
them is indented by two, and they hold no braces.
-/

namespace SnippetRunner.Library

/-- The text of `fractions`. -/
def fractionsText : String := r#"
  from math import gcd as _gcd, isnan as _isnan, isinf as _isinf
  from operator import index as _index
  from re import compile as _compile

  _form = _compile(
      r'\s*(?P<sign>[-+]?)(?=\d|\.\d)(?P<num>\d*|\d+(_\d+)*)'
      r'(?:(?:/(?P<denom>\d+(_\d+)*))?|(?:\.(?P<decimal>\d*|\d+(_\d+)*))?'
      r'(?:E(?P<exp>[-+]?\d+(_\d+)*))?)\s*\Z', 2)
  _modulus = 2 ** 61 - 1

  def _is_ratio(v):
      return isinstance(v, (int, Fraction)) or (
          hasattr(v, 'numerator') and hasattr(v, 'denominator'))

  class Fraction:
      __slots__ = ('_numerator', '_denominator')
      def __new__(cls, numerator=0, denominator=None):
          self = super(Fraction, cls).__new__(cls)
          if denominator is None:
              if type(numerator) is int:
                  self._numerator, self._denominator = numerator, 1
                  return self
              if _is_ratio(numerator):
                  self._numerator = numerator.numerator
                  self._denominator = numerator.denominator
                  return self
              if isinstance(numerator, float) or hasattr(numerator, 'as_integer_ratio'):
                  self._numerator, self._denominator = numerator.as_integer_ratio()
                  return self
              if not isinstance(numerator, str):
                  raise TypeError('argument should be a string or a Rational instance')
              found = _form.match(numerator)
              if found is None:
                  raise ValueError('Invalid literal for Fraction: %r' % numerator)
              sign = found.group('sign')
              decimal, exp = found.group('decimal'), found.group('exp')
              numerator = int(found.group('num') or '0')
              denominator = int(found.group('denom') or '1')
              if decimal:
                  decimal = decimal.replace('_', '')
                  denominator = 10 ** len(decimal)
                  numerator = numerator * denominator + int(decimal)
              if exp:
                  exp = int(exp)
                  if exp >= 0:
                      numerator *= 10 ** exp
                  else:
                      denominator *= 10 ** -exp
              if sign == '-':
                  numerator = -numerator
          elif type(numerator) is int is type(denominator):
              pass
          elif _is_ratio(numerator) and _is_ratio(denominator):
              numerator, denominator = (numerator.numerator * denominator.denominator,
                                        denominator.numerator * numerator.denominator)
          else:
              raise TypeError('both arguments should be Rational instances')
          if denominator == 0:
              raise ZeroDivisionError('Fraction(%s, 0)' % numerator)
          common = _gcd(numerator, denominator)
          if denominator < 0:
              common = -common
          self._numerator, self._denominator = numerator // common, denominator // common
          return self
      @classmethod
      def from_float(cls, f):
          if isinstance(f, int):
              return cls(f)
          if not isinstance(f, float):
              raise TypeError('%s.from_float() only takes floats, not %r (%s)'
                              % (cls.__name__, f, type(f).__name__))
          return cls(*f.as_integer_ratio())
      @classmethod
      def from_decimal(cls, dec):
          return cls(dec) if isinstance(dec, int) else cls(*dec.as_integer_ratio())
      @property
      def numerator(self):
          return self._numerator
      @property
      def denominator(self):
          return self._denominator
      @property
      def real(self):
          return +self
      @property
      def imag(self):
          return 0
      def conjugate(self):
          return +self
      def as_integer_ratio(self):
          return self._numerator, self._denominator
      def limit_denominator(self, max_denominator=1000000):
          if max_denominator < 1:
              raise ValueError('max_denominator should be at least 1')
          if self._denominator <= max_denominator:
              return Fraction(self)
          p0, q0, p1, q1 = 0, 1, 1, 0
          n, d = self._numerator, self._denominator
          while True:
              a = n // d
              q2 = q0 + a * q1
              if q2 > max_denominator:
                  break
              p0, q0, p1, q1 = p1, q1, p0 + a * p1, q2
              n, d = d, n - a * d
          k = (max_denominator - q0) // q1
          lower, upper = Fraction(p0 + k * p1, q0 + k * q1), Fraction(p1, q1)
          return upper if abs(upper - self) <= abs(lower - self) else lower
      def __repr__(self):
          return '%s(%s, %s)' % (self.__class__.__name__, self._numerator, self._denominator)
      def __str__(self):
          if self._denominator == 1:
              return str(self._numerator)
          return '%s/%s' % (self._numerator, self._denominator)
      def _apply(self, other, exact, inexact, swapped):
          if _is_ratio(other):
              other = other if isinstance(other, Fraction) else Fraction(other)
              return exact(other, self) if swapped else exact(self, other)
          if isinstance(other, float):
              return inexact(other, float(self)) if swapped else inexact(float(self), other)
          if isinstance(other, complex):
              return inexact(other, complex(self)) if swapped else inexact(complex(self), other)
          return NotImplemented
      def __add__(self, other):
          return self._apply(other, _added, lambda a, b: a + b, False)
      def __radd__(self, other):
          return self._apply(other, _added, lambda a, b: a + b, True)
      def __sub__(self, other):
          return self._apply(other, _lessened, lambda a, b: a - b, False)
      def __rsub__(self, other):
          return self._apply(other, _lessened, lambda a, b: a - b, True)
      def __mul__(self, other):
          return self._apply(other, _multiplied, lambda a, b: a * b, False)
      def __rmul__(self, other):
          return self._apply(other, _multiplied, lambda a, b: a * b, True)
      def __truediv__(self, other):
          return self._apply(other, _divided, lambda a, b: a / b, False)
      def __rtruediv__(self, other):
          return self._apply(other, _divided, lambda a, b: a / b, True)
      def __floordiv__(self, other):
          return self._apply(other, _floored, lambda a, b: a // b, False)
      def __rfloordiv__(self, other):
          return self._apply(other, _floored, lambda a, b: a // b, True)
      def __mod__(self, other):
          return self._apply(other, _rest, lambda a, b: a % b, False)
      def __rmod__(self, other):
          return self._apply(other, _rest, lambda a, b: a % b, True)
      def __divmod__(self, other):
          return self._apply(other, lambda a, b: (_floored(a, b), _rest(a, b)), divmod, False)
      def __rdivmod__(self, other):
          return self._apply(other, lambda a, b: (_floored(a, b), _rest(a, b)), divmod, True)
      def __pow__(self, other):
          if _is_ratio(other):
              if other.denominator != 1:
                  return float(self) ** float(other)
              power = other.numerator
              if power >= 0:
                  return Fraction(self._numerator ** power, self._denominator ** power)
              if self._numerator == 0:
                  raise ZeroDivisionError('Fraction(%s, 0)' % self._denominator ** -power)
              return Fraction(self._denominator ** -power, self._numerator ** -power)
          return float(self) ** other
      def __rpow__(self, other):
          if self._denominator == 1 and self._numerator >= 0:
              return other ** self._numerator
          if _is_ratio(other):
              return Fraction(other.numerator, other.denominator) ** self
          if self._denominator == 1:
              return other ** self._numerator
          return other ** float(self)
      def __pos__(self):
          return Fraction(self._numerator, self._denominator)
      def __neg__(self):
          return Fraction(-self._numerator, self._denominator)
      def __abs__(self):
          return Fraction(abs(self._numerator), self._denominator)
      def __int__(self):
          return self.__trunc__()
      def __trunc__(self):
          if self._numerator < 0:
              return -(-self._numerator // self._denominator)
          return self._numerator // self._denominator
      def __floor__(self):
          return self._numerator // self._denominator
      def __ceil__(self):
          return -(-self._numerator // self._denominator)
      def __round__(self, ndigits=None):
          if ndigits is None:
              floor, rest = divmod(self._numerator, self._denominator)
              if rest * 2 < self._denominator:
                  return floor
              if rest * 2 > self._denominator or floor % 2:
                  return floor + 1
              return floor
          shift = 10 ** abs(ndigits)
          if ndigits > 0:
              return Fraction(round(self * shift), shift)
          return Fraction(round(self / shift) * shift)
      def __float__(self):
          return self._numerator / self._denominator
      def __complex__(self):
          return complex(float(self))
      def __hash__(self):
          try:
              inverse = pow(self._denominator, -1, _modulus)
          except ValueError:
              code = 314159
          else:
              code = hash(hash(abs(self._numerator)) * inverse)
          result = code if self._numerator >= 0 else -code
          return -2 if result == -1 else result
      def __eq__(self, other):
          if type(other) is int:
              return self._numerator == other and self._denominator == 1
          if _is_ratio(other):
              return (self._numerator == other.numerator
                      and self._denominator == other.denominator)
          if isinstance(other, complex) and other.imag == 0:
              other = other.real
          if isinstance(other, float):
              if _isnan(other) or _isinf(other):
                  return 0.0 == other
              return self == Fraction(other)
          return NotImplemented
      def _compare(self, other, test):
          if _is_ratio(other):
              return test(self._numerator * other.denominator, self._denominator * other.numerator)
          if isinstance(other, float):
              if _isnan(other) or _isinf(other):
                  return test(0.0, other)
              return self._compare(Fraction(other), test)
          return NotImplemented
      def __lt__(self, other):
          return self._compare(other, lambda a, b: a < b)
      def __gt__(self, other):
          return self._compare(other, lambda a, b: a > b)
      def __le__(self, other):
          return self._compare(other, lambda a, b: a <= b)
      def __ge__(self, other):
          return self._compare(other, lambda a, b: a >= b)
      def __bool__(self):
          return bool(self._numerator)
      def __copy__(self):
          return self
      def __deepcopy__(self, memo):
          return self

  def _added(a, b):
      return Fraction(a._numerator * b._denominator + b._numerator * a._denominator,
                      a._denominator * b._denominator)

  def _lessened(a, b):
      return Fraction(a._numerator * b._denominator - b._numerator * a._denominator,
                      a._denominator * b._denominator)

  def _multiplied(a, b):
      return Fraction(a._numerator * b._numerator, a._denominator * b._denominator)

  def _divided(a, b):
      return Fraction(a._numerator * b._denominator, a._denominator * b._numerator)

  def _floored(a, b):
      return (a._numerator * b._denominator) // (a._denominator * b._numerator)

  def _rest(a, b):
      return Fraction((a._numerator * b._denominator) % (b._numerator * a._denominator),
                      a._denominator * b._denominator)
"#

/-- The text of `decimal`. -/
def decimalText : String := r#"
  from math import floor as _floor
  from collections import namedtuple as _namedtuple

  MAX_PREC = MAX_EMAX = 999999999999999999
  MIN_EMIN = -999999999999999999
  MIN_ETINY = -1999999999999999997
  HAVE_THREADS = HAVE_CONTEXTVAR = True
  ROUND_DOWN, ROUND_HALF_UP, ROUND_HALF_EVEN = 'ROUND_DOWN', 'ROUND_HALF_UP', 'ROUND_HALF_EVEN'
  ROUND_CEILING, ROUND_FLOOR, ROUND_UP = 'ROUND_CEILING', 'ROUND_FLOOR', 'ROUND_UP'
  ROUND_HALF_DOWN, ROUND_05UP = 'ROUND_HALF_DOWN', 'ROUND_05UP'

  class DecimalException(ArithmeticError):
      pass

  class Clamped(DecimalException):
      pass

  class InvalidOperation(DecimalException):
      pass

  class ConversionSyntax(InvalidOperation):
      pass

  class DivisionByZero(DecimalException, ZeroDivisionError):
      pass

  class DivisionImpossible(InvalidOperation):
      pass

  class DivisionUndefined(InvalidOperation, ZeroDivisionError):
      pass

  class Inexact(DecimalException):
      pass

  class InvalidContext(InvalidOperation):
      pass

  class Rounded(DecimalException):
      pass

  class Subnormal(DecimalException):
      pass

  class Overflow(Inexact, Rounded):
      pass

  class Underflow(Inexact, Rounded, Subnormal):
      pass

  class FloatOperation(DecimalException, TypeError):
      pass

  _signals = [InvalidOperation, FloatOperation, DivisionByZero, Overflow, Subnormal, Underflow,
              Rounded, Inexact, Clamped]

  DecimalTuple = _namedtuple('DecimalTuple', 'sign digits exponent', module='decimal')

  def _size(n):
      if n < 10 ** 4000:
          return len(str(n))
      low = (n.bit_length() - 1) * 30103 // 100000
      while 10 ** low <= n:
          low += 1
      return low

  def _round_up(sign, digit, rest, odd, rounding):
      # whether what is left of a coefficient is one more; digit and rest are what is dropped
      if rounding == ROUND_HALF_EVEN:
          return digit > 5 or digit == 5 and (rest or odd % 2 == 1)
      if rounding == ROUND_HALF_UP:
          return digit >= 5
      if rounding == ROUND_HALF_DOWN:
          return digit > 5 or digit == 5 and rest
      if rounding == ROUND_DOWN:
          return False
      inexact = digit > 0 or rest
      if rounding == ROUND_UP:
          return inexact
      if rounding == ROUND_CEILING:
          return inexact and not sign
      if rounding == ROUND_FLOOR:
          return inexact and sign
      return inexact and odd % 5 == 0

  def _dropped(sign, coef, count, rounding):
      # a coefficient without so many digits, and whether that changed it
      if count <= 0:
          return coef * 10 ** -count, False
      if count > _size(coef) + 1:
          whole, digit, rest = 0, 0, coef > 0
      else:
          whole, low = divmod(coef, 10 ** count)
          digit, rest = divmod(low, 10 ** (count - 1))
      exact = not digit and not rest
      if not exact and _round_up(sign, digit, rest > 0, whole, rounding):
          whole += 1
      return whole, not exact

  class Context:
      _complaint_name = 'decimal.Context'
      def __init__(self, prec=None, rounding=None, Emin=None, Emax=None, capitals=None, clamp=None,
                   flags=None, traps=None):
          base = _standard
          self.prec = base.prec if prec is None else prec
          self.rounding = base.rounding if rounding is None else rounding
          self.Emin = base.Emin if Emin is None else Emin
          self.Emax = base.Emax if Emax is None else Emax
          self.capitals = base.capitals if capitals is None else capitals
          self.clamp = base.clamp if clamp is None else clamp
          self.flags = self._marks(flags, [])
          self.traps = self._marks(traps, [s for s in _signals if base.traps[s]])
      @staticmethod
      def _marks(given, standard):
          if isinstance(given, dict):
              return given
          given = standard if given is None else given
          return dict([(signal, signal in given) for signal in _signals])
      def __setattr__(self, name, value):
          if name == 'prec':
              if not isinstance(value, int):
                  raise TypeError("'%s' object cannot be interpreted as an integer"
                                  % type(value).__name__)
              if not 1 <= value <= MAX_PREC:
                  raise ValueError('valid range for prec is [1, MAX_PREC]')
          elif name == 'rounding' and value not in (
                  ROUND_UP, ROUND_DOWN, ROUND_CEILING, ROUND_FLOOR, ROUND_HALF_UP, ROUND_HALF_DOWN,
                  ROUND_HALF_EVEN, ROUND_05UP):
              raise TypeError("valid values for rounding are:\n  [ROUND_CEILING, ROUND_FLOOR, "
                              "ROUND_UP, ROUND_DOWN,\n   ROUND_HALF_UP, ROUND_HALF_DOWN, "
                              "ROUND_HALF_EVEN,\n   ROUND_05UP]")
          object.__setattr__(self, name, value)
      def __repr__(self):
          return ('Context(prec=%d, rounding=%s, Emin=%d, Emax=%d, capitals=%d, clamp=%d, '
                  'flags=[%s], traps=[%s])' % (
                      self.prec, self.rounding, self.Emin, self.Emax, self.capitals, self.clamp,
                      ', '.join([s.__name__ for s in _signals if self.flags[s]]),
                      ', '.join([s.__name__ for s in _signals if self.traps[s]])))
      def clear_flags(self):
          for signal in _signals:
              self.flags[signal] = False
      def clear_traps(self):
          for signal in _signals:
              self.traps[signal] = False
      def copy(self):
          return Context(self.prec, self.rounding, self.Emin, self.Emax, self.capitals, self.clamp,
                         dict(self.flags), dict(self.traps))
      __copy__ = copy
      def Etiny(self):
          return self.Emin - self.prec + 1
      def Etop(self):
          return self.Emax - self.prec + 1
      def _signal(self, signal, result, detail=None):
          self.flags[signal] = True
          if self.traps[signal]:
              raise signal([detail or signal])
          return result
      def create_decimal(self, num='0'):
          return Decimal(num, self)._fix(self)
      def create_decimal_from_float(self, f):
          return Decimal.from_float(f)._fix(self)
      def __getattr__(self, name):
          method = _context_methods.get(name)
          if method is None:
              raise AttributeError("'decimal.Context' object has no attribute '%s'" % name)
          def apply(a, *others):
              return method(Decimal(a), *[Decimal(b) for b in others], self)
          return apply

  class _Standard:
      prec, rounding, Emin, Emax, capitals, clamp = 28, ROUND_HALF_EVEN, -999999, 999999, 1, 0
      traps = dict([(s, s in (InvalidOperation, DivisionByZero, Overflow)) for s in _signals])

  _standard = _Standard
  DefaultContext = Context()
  BasicContext = Context(prec=9, rounding=ROUND_HALF_UP, flags=[], traps=[
      DivisionByZero, Overflow, InvalidOperation, Clamped, Underflow])
  ExtendedContext = Context(prec=9, rounding=ROUND_HALF_EVEN, flags=[], traps=[])
  _standard = DefaultContext
  _now = [DefaultContext.copy()]

  def getcontext():
      return _now[0]

  def setcontext(context):
      if context in (DefaultContext, BasicContext, ExtendedContext):
          context = context.copy()
          context.clear_flags()
      _now[0] = context

  class _Local:
      def __init__(self, context):
          self.context = context
      def __enter__(self):
          self.before = getcontext()
          setcontext(self.context)
          return self.context
      def __exit__(self, kind, value, trace):
          setcontext(self.before)

  def localcontext(ctx=None, **keywords):
      made = (getcontext() if ctx is None else ctx).copy()
      for name, value in keywords.items():
          if name not in ('prec', 'rounding', 'Emin', 'Emax', 'capitals', 'clamp', 'flags',
                          'traps'):
              raise TypeError("'%s' is an invalid keyword argument for this function" % name)
          setattr(made, name, value)
      return _Local(made)

  def _made(sign, coef, exp):
      self = object.__new__(Decimal)
      self._sign, self._coef, self._exp = sign, coef, exp
      return self

  def _parsed(text):
      s = text.strip().replace('_', '')
      if not s.isascii():
          s = ''.join([str(int(c)) if c.isdecimal() else c for c in s])
      sign, rest = 0, s
      if rest[:1] in ('+', '-'):
          sign, rest = int(rest[0] == '-'), rest[1:]
      low = rest.lower()
      if low in ('inf', 'infinity'):
          return sign, 0, 'F'
      for lead, exp in (('nan', 'n'), ('snan', 'N')):
          if low.startswith(lead) and (low == lead or low[len(lead):].isdigit()):
              return sign, int(low[len(lead):] or '0'), exp
      number, mark, power = low.partition('e')
      whole, point, part = number.partition('.')
      digits = whole + part
      if not digits.isdigit() or not digits.isascii():
          return None
      exp = 0
      if mark:
          tail = power[1:] if power[:1] in ('+', '-') else power
          if not tail.isdigit() or not tail.isascii():
              return None
          exp = int(power)
      return sign, int(digits), exp - len(part)

  class Decimal:
      _complaint_name = 'decimal.Decimal'
      __slots__ = ('_sign', '_coef', '_exp')
      def __new__(cls, value='0', context=None):
          self = object.__new__(cls)
          if isinstance(value, str):
              parts = _parsed(value)
              if parts is None:
                  (context or getcontext())._signal(InvalidOperation, None, ConversionSyntax)
                  parts = 0, 0, 'n'
              self._sign, self._coef, self._exp = parts
          elif isinstance(value, int):
              self._sign, self._coef, self._exp = int(value < 0), abs(int(value)), 0
          elif isinstance(value, Decimal):
              self._sign, self._coef, self._exp = value._sign, value._coef, value._exp
          elif isinstance(value, float):
              made = Decimal.from_float(value)
              self._sign, self._coef, self._exp = made._sign, made._coef, made._exp
          elif isinstance(value, (list, tuple)):
              if len(value) != 3:
                  raise ValueError('argument must be a sequence of length 3')
              sign, digits, exp = value
              if sign not in (0, 1):
                  raise ValueError('sign must be an integer with the value 0 or 1')
              if exp != 'F' and exp not in ('n', 'N') and not isinstance(exp, int):
                  raise ValueError('string argument in the third position must be '
                                   "'F', 'n' or 'N'")
              coef = 0
              for digit in digits:
                  if not isinstance(digit, int) or not 0 <= digit <= 9:
                      raise ValueError('coefficient must be a tuple of digits')
                  coef = 10 * coef + digit
              self._sign, self._coef, self._exp = sign, coef, exp
          else:
              raise TypeError('conversion from %s to Decimal is not supported'
                              % type(value).__name__)
          return self
      @classmethod
      def from_float(cls, f):
          if isinstance(f, int):
              return cls(f)
          if not isinstance(f, float):
              raise TypeError('argument must be int or float')
          if f != f or f in (float('inf'), float('-inf')):
              return cls(repr(f))
          n, d = abs(f).as_integer_ratio()
          k = d.bit_length() - 1
          sign = int(str(f)[0] == '-')
          made = _made(sign, n * 5 ** k, -k)
          return made if cls is Decimal else cls(made)
      def _special(self):
          return isinstance(self._exp, str)
      def _isnan(self):
          return self._exp in ('n', 'N')
      def _digits(self):
          return str(self._coef) if self._coef < 10 ** 4000 else '9' * _size(self._coef)
      def is_nan(self):
          return self._isnan()
      def is_qnan(self):
          return self._exp == 'n'
      def is_snan(self):
          return self._exp == 'N'
      def is_infinite(self):
          return self._exp == 'F'
      def is_finite(self):
          return not self._special()
      def is_signed(self):
          return self._sign == 1
      def is_zero(self):
          return not self._special() and self._coef == 0
      def is_normal(self, context=None):
          context = context or getcontext()
          return not self._special() and self._coef != 0 and context.Emin <= self.adjusted()
      def is_subnormal(self, context=None):
          context = context or getcontext()
          return not self._special() and self._coef != 0 and self.adjusted() < context.Emin
      def is_canonical(self):
          return True
      def canonical(self):
          return self
      def __bool__(self):
          return self._special() or self._coef != 0
      def as_tuple(self):
          if self._exp == 'F':
              return DecimalTuple(self._sign, (0,), 'F')
          digits = () if self._isnan() and not self._coef else tuple(map(int, str(self._coef)))
          return DecimalTuple(self._sign, digits, self._exp)
      def as_integer_ratio(self):
          if self._special():
              if self._isnan():
                  raise ValueError('cannot convert NaN to integer ratio')
              raise OverflowError('cannot convert Infinity to integer ratio')
          n, d = self._coef, 1
          if self._exp >= 0:
              n *= 10 ** self._exp
          else:
              d = 10 ** -self._exp
              while n % 5 == 0 and d % 5 == 0 and n:
                  n, d = n // 5, d // 5
              while n % 2 == 0 and d % 2 == 0 and n:
                  n, d = n // 2, d // 2
              if not n:
                  d = 1
          return -n if self._sign else n, d
      def adjusted(self):
          return 0 if self._special() else self._exp + _size(self._coef) - 1
      def __repr__(self):
          return "Decimal('%s')" % str(self)
      def __str__(self, eng=False, context=None):
          sign = '-' if self._sign else ''
          if self._special():
              if self._exp == 'F':
                  return sign + 'Infinity'
              return sign + ('NaN' if self._exp == 'n' else 'sNaN') + (
                  str(self._coef) if self._coef else '')
          digits = str(self._coef)
          left = self._exp + len(digits)
          if self._exp <= 0 and left > -6:
              point = left
          elif not eng:
              point = 1
          elif self._coef == 0:
              point = (left + 1) % 3 - 1
          else:
              point = (left - 1) % 3 + 1
          if point <= 0:
              whole, part = '0', '.' + '0' * -point + digits
          elif point >= len(digits):
              whole, part = digits + '0' * (point - len(digits)), ''
          else:
              whole, part = digits[:point], '.' + digits[point:]
          mark = 'E' if (context or getcontext()).capitals else 'e'
          exp = '' if left == point else '%s%+d' % (mark, left - point)
          return sign + whole + part + exp
      def to_eng_string(self, context=None):
          return self.__str__(True, context)
      def _fix(self, context):
          if self._special():
              return self
          low, top = context.Etiny(), context.Emax if context.clamp == 0 else context.Etop()
          if self._coef == 0:
              exp = min(max(self._exp, low), top)
              return self if exp == self._exp else _made(self._sign, 0, exp)
          size = _size(self._coef)
          least = size + self._exp - context.prec
          if least > context.Etop():
              return self._overflow(context)
          subnormal = least < low
          if subnormal:
              least = low
          if self._exp >= least:
              if subnormal:
                  context.flags[Subnormal] = True
              return self
          coef, changed = _dropped(self._sign, self._coef, least - self._exp, context.rounding)
          if _size(coef) > context.prec:
              coef, least = coef // 10, least + 1
          if least > context.Etop():
              return self._overflow(context)
          made = _made(self._sign, coef, least)
          if changed and subnormal:
              context._signal(Underflow, made)
          if subnormal:
              context._signal(Subnormal, made)
          if changed:
              context._signal(Inexact, made)
          context._signal(Rounded, made)
          return made
      def _overflow(self, context):
          up = context.rounding in (ROUND_HALF_EVEN, ROUND_HALF_UP, ROUND_HALF_DOWN, ROUND_UP) or (
              context.rounding == (ROUND_FLOOR if self._sign else ROUND_CEILING))
          made = (_made(self._sign, 0, 'F') if up else
                  _made(self._sign, 10 ** context.prec - 1, context.Etop()))
          context._signal(Overflow, made)
          context.flags[Inexact] = context.flags[Rounded] = True
          return made
      def _check(self, other, context):
          # what an operation on something that is not a number comes to
          for v in (self, other):
              if v is not None and v._exp == 'N':
                  return context._signal(InvalidOperation, _made(v._sign, v._coef, 'n'))
          for v in (self, other):
              if v is not None and v._exp == 'n':
                  return v
      def _invalid(self, context, detail=None):
          return context._signal(InvalidOperation, _made(0, 0, 'n'), detail)
      def __add__(self, other, context=None):
          other = _operand(other)
          if other is NotImplemented:
              return other
          context = context or getcontext()
          if self._special() or other._special():
              odd = self._check(other, context)
              if odd is not None:
                  return odd
              if self._exp == 'F':
                  if other._exp == 'F' and self._sign != other._sign:
                      return self._invalid(context)
                  return self
              return other
          exp = min(self._exp, other._exp)
          if not self._coef and not other._coef:
              sign = min(self._sign, other._sign)
              if self._sign != other._sign and context.rounding == ROUND_FLOOR:
                  sign = 1
              return _made(sign, 0, exp)._fix(context)
          a, b = self, other
          if not a._coef or not b._coef:
              full = b if not a._coef else a
              exp = max(exp, full._exp - context.prec - 1)
              if full._exp > exp:
                  full = _made(full._sign, full._coef * 10 ** (full._exp - exp), exp)
              return full._fix(context)
          if a._exp < b._exp:
              a, b = b, a
          # the smaller one matters only as far as the larger one has digits
          limit = b._exp + _size(b._coef)
          far = a._exp + min(-1, _size(a._coef) - context.prec - 2)
          if limit - 1 < far:
              b = _made(b._sign, 1, far)
              exp = far
          x = (a._coef * 10 ** (a._exp - exp)) * (-1 if a._sign else 1)
          x += (b._coef * 10 ** (b._exp - exp)) * (-1 if b._sign else 1)
          if x == 0:
              return _made(int(context.rounding == ROUND_FLOOR), 0, exp)._fix(context)
          return _made(int(x < 0), abs(x), exp)._fix(context)
      __radd__ = __add__
      def __sub__(self, other, context=None):
          other = _operand(other)
          if other is NotImplemented:
              return other
          if other._isnan():
              return self.__add__(other, context)
          return self.__add__(other.copy_negate(), context)
      def __rsub__(self, other, context=None):
          other = _operand(other)
          return other if other is NotImplemented else other.__sub__(self, context)
      def __mul__(self, other, context=None):
          other = _operand(other)
          if other is NotImplemented:
              return other
          context = context or getcontext()
          sign = self._sign ^ other._sign
          if self._special() or other._special():
              odd = self._check(other, context)
              if odd is not None:
                  return odd
              if not self or not other:
                  return self._invalid(context)
              return _made(sign, 0, 'F')
          return _made(sign, self._coef * other._coef, self._exp + other._exp)._fix(context)
      __rmul__ = __mul__
      def __truediv__(self, other, context=None):
          other = _operand(other)
          if other is NotImplemented:
              return other
          context = context or getcontext()
          sign = self._sign ^ other._sign
          if self._special() or other._special():
              odd = self._check(other, context)
              if odd is not None:
                  return odd
              if self._exp == 'F':
                  if other._exp == 'F':
                      return self._invalid(context)
                  return _made(sign, 0, 'F')
              return _made(sign, 0, context.Etiny())
          if not other._coef:
              if not self._coef:
                  return self._invalid(context, DivisionUndefined)
              return context._signal(DivisionByZero, _made(sign, 0, 'F'))
          if not self._coef:
              return _made(sign, 0, self._exp - other._exp)._fix(context)
          shift = _size(other._coef) - _size(self._coef) + context.prec + 1
          exp = self._exp - other._exp - shift
          if shift >= 0:
              coef, rest = divmod(self._coef * 10 ** shift, other._coef)
          else:
              coef, rest = divmod(self._coef, other._coef * 10 ** -shift)
          if rest:
              if coef % 5 == 0:
                  coef += 1
          else:
              ideal = self._exp - other._exp
              while exp < ideal and coef % 10 == 0:
                  coef //= 10
                  exp += 1
          return _made(sign, coef, exp)._fix(context)
      def __rtruediv__(self, other, context=None):
          other = _operand(other)
          return other if other is NotImplemented else other.__truediv__(self, context)
      def _split(self, other, context):
          # the whole quotient and the rest
          sign = self._sign ^ other._sign
          ideal = self._exp if other._exp == 'F' else min(self._exp, other._exp)
          if not self._coef or other._exp == 'F' or self.adjusted() - other.adjusted() <= -2:
              return (_made(sign, 0, 0),
                      self if other._exp == 'F' else self._rescale(ideal, context.rounding))
          if self.adjusted() - other.adjusted() <= context.prec:
              a = self._coef * 10 ** max(self._exp - other._exp, 0)
              b = other._coef * 10 ** max(other._exp - self._exp, 0)
              q, r = divmod(a, b)
              if q < 10 ** context.prec:
                  return _made(sign, q, 0), _made(self._sign, r, ideal)
          odd = self._invalid(context, DivisionImpossible)
          return odd, odd
      def _division(self, other, context):
          context = context or getcontext()
          if self._special() or other._special():
              odd = self._check(other, context)
              if odd is not None:
                  return odd, odd
              if self._exp == 'F':
                  if other._exp == 'F':
                      odd = self._invalid(context)
                      return odd, odd
                  return _made(self._sign ^ other._sign, 0, 'F'), self._invalid(context)
          if not other._coef and other._exp != 'F':
              if not self._coef:
                  odd = self._invalid(context, DivisionUndefined)
                  return odd, odd
              return None, None
          q, r = self._split(other, context)
          return q, r._fix(context) if not r._special() else r
      def __floordiv__(self, other, context=None):
          other = _operand(other)
          if other is NotImplemented:
              return other
          context = context or getcontext()
          if self._exp == 'F' and not other._special():
              return _made(self._sign ^ other._sign, 0, 'F')
          q = self._division(other, context)[0]
          if q is None:
              return context._signal(DivisionByZero, _made(self._sign ^ other._sign, 0, 'F'))
          return q
      def __rfloordiv__(self, other, context=None):
          other = _operand(other)
          return other if other is NotImplemented else other.__floordiv__(self, context)
      def __mod__(self, other, context=None):
          other = _operand(other)
          if other is NotImplemented:
              return other
          context = context or getcontext()
          if self._exp == 'F' and not other._isnan():
              return self._invalid(context)
          r = self._division(other, context)[1]
          return self._invalid(context) if r is None else r
      def __rmod__(self, other, context=None):
          other = _operand(other)
          return other if other is NotImplemented else other.__mod__(self, context)
      def __divmod__(self, other, context=None):
          other = _operand(other)
          if other is NotImplemented:
              return other
          context = context or getcontext()
          q, r = self._division(other, context)
          if q is None:
              return (context._signal(DivisionByZero, _made(self._sign ^ other._sign, 0, 'F')),
                      self._invalid(context))
          return q, r
      def __rdivmod__(self, other, context=None):
          other = _operand(other)
          return other if other is NotImplemented else other.__divmod__(self, context)
      def remainder_near(self, other, context=None):
          context = context or getcontext()
          other = _operand(other, True)
          if self._special() or other._special() or not other._coef:
              if self._check(other, context) is not None:
                  return self._check(other, context)
              if other._exp == 'F' and not self._special():
                  return self._fix(context)
              return self._invalid(context)
          exp = min(self._exp, other._exp)
          a = self._coef * 10 ** (self._exp - exp)
          b = other._coef * 10 ** (other._exp - exp)
          q, r = divmod(a, b)
          if 2 * r + q % 2 > b:
              r -= b
          sign = self._sign
          if r < 0:
              sign, r = 1 - sign, -r
          return _made(sign, r, exp)._fix(context)
      def fma(self, other, third, context=None):
          other, third = _operand(other, True), _operand(third, True)
          if self._special() or other._special():
              return (self * other).__add__(third, context)
          product = _made(self._sign ^ other._sign, self._coef * other._coef,
                          self._exp + other._exp)
          return product.__add__(third, context)
      def __neg__(self, context=None):
          context = context or getcontext()
          if self._special():
              odd = self._check(None, context)
              if odd is not None:
                  return odd
          if not self and context.rounding != ROUND_FLOOR:
              return self.copy_abs()._fix(context)
          return self.copy_negate()._fix(context)
      def __pos__(self, context=None):
          context = context or getcontext()
          if self._special():
              odd = self._check(None, context)
              if odd is not None:
                  return odd
          if not self and context.rounding != ROUND_FLOOR:
              return self.copy_abs()._fix(context)
          return self._fix(context)
      def __abs__(self, round=True, context=None):
          if not round:
              return self.copy_abs()
          return self.__neg__(context) if self._sign else self.__pos__(context)
      def copy_abs(self):
          return _made(0, self._coef, self._exp)
      def copy_negate(self):
          return _made(1 - self._sign, self._coef, self._exp)
      def copy_sign(self, other, context=None):
          return _made(_operand(other, True)._sign, self._coef, self._exp)
      def conjugate(self):
          return self
      real = property(lambda self: self)
      imag = property(lambda self: Decimal(0))
      def __int__(self):
          if self._special():
              if self._isnan():
                  raise ValueError('cannot convert NaN to integer')
              raise OverflowError('cannot convert Infinity to integer')
          n = self._coef * 10 ** self._exp if self._exp >= 0 else self._coef // 10 ** -self._exp
          return -n if self._sign else n
      __trunc__ = __int__
      def __float__(self):
          if self._exp == 'N':
              raise ValueError('cannot convert signaling NaN to float')
          if self._exp == 'n':
              return float('-nan' if self._sign else 'nan')
          return float(str(self))
      def __complex__(self):
          return complex(float(self))
      def _rescale(self, exp, rounding):
          if self._special() or not self._coef:
              return self if self._special() else _made(self._sign, 0, exp)
          coef, _ = _dropped(self._sign, self._coef, exp - self._exp, rounding)
          return _made(self._sign, coef, exp)
      def quantize(self, exp, rounding=None, context=None):
          exp = _operand(exp, True)
          context = context or getcontext()
          rounding = rounding or context.rounding
          if self._special() or exp._special():
              odd = self._check(exp, context)
              if odd is not None:
                  return odd
              return self if self._exp == exp._exp == 'F' else self._invalid(context)
          if not context.Etiny() <= exp._exp <= context.Emax:
              return self._invalid(context)
          if not self._coef:
              return _made(self._sign, 0, exp._exp)._fix(context)
          if self.adjusted() > context.Emax or self.adjusted() - exp._exp + 1 > context.prec:
              return self._invalid(context)
          coef, changed = _dropped(self._sign, self._coef, exp._exp - self._exp, rounding)
          made = _made(self._sign, coef, exp._exp)
          if made.adjusted() > context.Emax or _size(coef) > context.prec:
              return self._invalid(context)
          if made._exp > self._exp:
              if changed:
                  context._signal(Inexact, made)
              context._signal(Rounded, made)
          return made._fix(context)
      def same_quantum(self, other, context=None):
          other = _operand(other, True)
          if self._special() or other._special():
              return self._isnan() and other._isnan() or self._exp == other._exp == 'F'
          return self._exp == other._exp
      def to_integral_value(self, rounding=None, context=None):
          context = context or getcontext()
          if self._special():
              odd = self._check(None, context)
              return self if odd is None else odd
          if self._exp >= 0:
              return self
          return self._rescale(0, rounding or context.rounding)
      to_integral = to_integral_value
      def to_integral_exact(self, rounding=None, context=None):
          made = self.to_integral_value(rounding, context)
          if made is not self and made != self:
              (context or getcontext())._signal(Inexact, made)
          return made
      def __round__(self, n=None):
          if n is not None:
              if not isinstance(n, int):
                  raise TypeError('optional arg must be an integer')
              return self.quantize(_made(0, 1, -n), ROUND_HALF_EVEN)
          return self._whole(ROUND_HALF_EVEN)
      def __floor__(self):
          return self._whole(ROUND_FLOOR)
      def __ceil__(self):
          return self._whole(ROUND_CEILING)
      def _whole(self, rounding):
          if self._special():
              if self._isnan():
                  raise ValueError('cannot convert NaN to integer')
              raise OverflowError('cannot convert Infinity to integer')
          return int(self._rescale(0, rounding))
      def normalize(self, context=None):
          context = context or getcontext()
          if self._special():
              odd = self._check(None, context)
              return self if odd is None else odd
          made = self._fix(context)
          if made._special():
              return made
          if not made._coef:
              return _made(made._sign, 0, 0)
          coef, exp = made._coef, made._exp
          while coef % 10 == 0 and exp < context.Emax:
              coef //= 10
              exp += 1
          return _made(made._sign, coef, exp)
      def scaleb(self, other, context=None):
          return _made(self._sign, self._coef, self._exp + int(other))._fix(
              context or getcontext())
      def logb(self, context=None):
          context = context or getcontext()
          if not self._coef and not self._special():
              return context._signal(DivisionByZero, _made(1, 0, 'F'))
          return Decimal(self.adjusted())._fix(context)
      def radix(self):
          return Decimal(10)
      def number_class(self, context=None):
          if self._isnan():
              return 'NaN' if self._exp == 'n' else 'sNaN'
          sign = '-' if self._sign else '+'
          if self._exp == 'F':
              return sign + 'Infinity'
          if not self._coef:
              return sign + 'Zero'
          return sign + ('Subnormal' if self.is_subnormal(context) else 'Normal')
      def _order(self, other):
          # less than, equal to or more than another number
          a = (-1 if self._sign else 1) if self else 0
          b = (-1 if other._sign else 1) if other else 0
          if a != b or a == 0:
              return (a > b) - (a < b)
          if self._exp == 'F' or other._exp == 'F':
              return a * ((self._exp == 'F') - (other._exp == 'F'))
          if self.adjusted() != other.adjusted():
              return a if self.adjusted() > other.adjusted() else -a
          exp = min(self._exp, other._exp)
          x, y = self._coef * 10 ** (self._exp - exp), other._coef * 10 ** (other._exp - exp)
          return a * ((x > y) - (x < y))
      def _test(self, other, test, ordered):
          if isinstance(other, float):
              other = Decimal.from_float(other)
          elif isinstance(other, complex) and not ordered and other.imag == 0:
              other = Decimal.from_float(other.real)
          elif not isinstance(other, (int, Decimal)) and hasattr(other, 'denominator'):
              other = _ratio_operand(self, other)
              if other is not NotImplemented:
                  self, other = other
          other = _operand(other)
          if other is NotImplemented:
              return other
          if self._isnan() or other._isnan():
              if ordered or self._exp == 'N' or other._exp == 'N':
                  self._invalid(getcontext())
              return False
          return test(self._order(other))
      def __eq__(self, other):
          return self._test(other, lambda n: n == 0, False)
      def __lt__(self, other):
          return self._test(other, lambda n: n < 0, True)
      def __le__(self, other):
          return self._test(other, lambda n: n <= 0, True)
      def __gt__(self, other):
          return self._test(other, lambda n: n > 0, True)
      def __ge__(self, other):
          return self._test(other, lambda n: n >= 0, True)
      def __hash__(self):
          if self._special():
              if self._exp == 'N':
                  raise TypeError('Cannot hash a signaling NaN value')
              if self._exp == 'n':
                  return 0
              return -314159 if self._sign else 314159
          modulus = 2 ** 61 - 1
          power = pow(10, self._exp, modulus) if self._exp >= 0 else pow(
              pow(10, modulus - 2, modulus), -self._exp, modulus)
          code = self._coef * power % modulus
          code = -code if self._sign else code
          return -2 if code == -1 else code
      def compare(self, other, context=None):
          other = _operand(other, True)
          if self._special() or other._special():
              odd = self._check(other, context or getcontext())
              if odd is not None:
                  return odd
          return Decimal(self._order(other))
      def compare_total(self, other, context=None):
          other = _operand(other, True)
          order = self._order(other)
          if order == 0 and not self._special() and self._exp != other._exp:
              order = (self._exp > other._exp) - (self._exp < other._exp)
              order = -order if self._sign else order
          return Decimal(order)
      def max(self, other, context=None):
          other = _operand(other, True)
          if self._isnan() or other._isnan():
              return other if self._isnan() and not other._isnan() else self
          return (other if self._order(other) < 0 else self)._fix(context or getcontext())
      def min(self, other, context=None):
          other = _operand(other, True)
          if self._isnan() or other._isnan():
              return other if self._isnan() and not other._isnan() else self
          return (other if self._order(other) > 0 else self)._fix(context or getcontext())
      def max_mag(self, other, context=None):
          other = _operand(other, True)
          return other if self.copy_abs()._order(other.copy_abs()) < 0 else self
      def min_mag(self, other, context=None):
          other = _operand(other, True)
          return other if self.copy_abs()._order(other.copy_abs()) > 0 else self
      def sqrt(self, context=None):
          context = context or getcontext()
          if self._special():
              odd = self._check(None, context)
              if odd is not None:
                  return odd
              if not self._sign:
                  return self
          if not self:
              return _made(self._sign, 0, self._exp // 2)._fix(context)
          if self._sign:
              return self._invalid(context)
          prec = context.prec + 1
          exp, coef = self._exp, self._coef
          size = _size(coef)
          if exp % 2:
              coef, half = coef * 10, (size >> 1) + 1
          else:
              half = size + 1 >> 1
          exp >>= 1
          shift = prec - half
          exact = True
          if shift >= 0:
              coef *= 100 ** shift
          else:
              coef, rest = divmod(coef, 100 ** -shift)
              exact = not rest
          exp -= shift
          n = 10 ** prec
          while True:
              q = coef // n
              if n <= q:
                  break
              n = n + q >> 1
          if exact and n * n == coef:
              if shift >= 0:
                  n //= 10 ** shift
              else:
                  n *= 10 ** -shift
              exp += shift
          elif n % 5 == 0:
              n += 1
          local = context.copy()
          local.rounding = ROUND_HALF_EVEN
          return _made(0, n, exp)._fix(local)
      def exp(self, context=None):
          context = context or getcontext()
          if self._special():
              odd = self._check(None, context)
              if odd is not None:
                  return odd
              return Decimal(0) if self._sign else self
          if not self:
              return Decimal(1)
          if self.adjusted() > 8:
              if self._sign:
                  return _made(0, 1, context.Etiny() - 1)._fix(context)
              return _made(0, 1, context.Emax + 1)._fix(context)
          return _rounded(_exp_of(self, context.prec + 12), context)
      def ln(self, context=None):
          context = context or getcontext()
          if self._special():
              odd = self._check(None, context)
              if odd is not None:
                  return odd
              if not self._sign:
                  return self
          if not self:
              return _made(1, 0, 'F')
          if self._sign:
              return self._invalid(context)
          if self == 1:
              return Decimal(0)
          return _rounded(_ln_of(self, context.prec + 12), context)
      def log10(self, context=None):
          context = context or getcontext()
          if self._special():
              odd = self._check(None, context)
              if odd is not None:
                  return odd
              if not self._sign:
                  return self
          if not self:
              return _made(1, 0, 'F')
          if self._sign:
              return self._invalid(context)
          if str(self._coef).strip('0') == '1':
              return Decimal(self.adjusted())._fix(context)
          places = context.prec + 12
          value = _ln_of(self, places + 4) / _ln_of(Decimal(10), places + 4)
          return _rounded(value, context)
      def __pow__(self, other, modulo=None, context=None):
          other = _operand(other)
          if other is NotImplemented:
              return other
          context = context or getcontext()
          if modulo is not None:
              modulo = _operand(modulo, True)
              return Decimal(pow(int(self), int(other), int(modulo)))._fix(context)
          if self._isnan() or other._isnan():
              return self._check(other, context)
          whole = not other._special() and other == other.to_integral_value(ROUND_DOWN)
          if not other:
              return Decimal(1) if self else self._invalid(context)
          sign = int(self._sign and whole and int(other) % 2)
          if self._sign and self and not whole and other._exp != 'F':
              return self._invalid(context)
          if not self:
              if other._sign:
                  return _made(sign, 0, 'F')
              return _made(sign, 0, 0)
          if self._exp == 'F':
              return _made(sign, 0, 0 if other._sign else 'F')
          if other._exp == 'F':
              order = self.copy_abs()._order(Decimal(1))
              if order == 0:
                  return _rounded(Decimal(1), context, True)
              return Decimal(0) if (order > 0) == bool(other._sign) else _made(0, 0, 'F')
          if whole:
              power = int(other)
              if abs(power) * _size(self._coef) < 20000:
                  if power >= 0:
                      return _made(sign, self._coef ** power, self._exp * power)._fix(context)
                  wide = context.copy()
                  wide.prec = context.prec + 4
                  base = Decimal(1).__truediv__(self.copy_abs(), wide)
                  made = _made(sign, base._coef ** -power, base._exp * -power)
                  return made._fix(context)
          wide = _wide(context.prec + 20)
          product = other.__mul__(_ln_of(self.copy_abs(), context.prec + 20 + abs(
              other.adjusted())), wide)
          if product.adjusted() > 8:
              if product._sign:
                  return _made(sign, 1, context.Etiny() - 1)._fix(context)
              return _made(sign, 1, context.Emax + 1)._fix(context)
          made = _rounded(_exp_of(product, context.prec + 12), context, True)
          return made if not sign else made.copy_negate()
      def __rpow__(self, other, context=None):
          other = _operand(other)
          return other if other is NotImplemented else other.__pow__(self, None, context)
      def __format__(self, spec, context=None):
          return _formatted(self, spec, context or getcontext())
      def __copy__(self):
          return self
      def __deepcopy__(self, memo):
          return self
      def __reduce__(self):
          return self.__class__, (str(self),)

  def _operand(other, strict=False):
      if isinstance(other, Decimal):
          return other
      if isinstance(other, int):
          return Decimal(other)
      if strict:
          raise TypeError('conversion from %s to Decimal is not supported' % type(other).__name__)
      return NotImplemented

  def _ratio_operand(self, other):
      if self._special():
          return self, Decimal(0)
      return (_made(self._sign, self._coef * other.denominator, self._exp),
              Decimal(other.numerator))

  def _wide(prec):
      context = DefaultContext.copy()
      context.prec, context.Emin, context.Emax = prec, -10 ** 12, 10 ** 12
      context.clear_traps()
      return context

  def _rounded(value, context, padded=False):
      # a value of which more digits are known than are wanted
      local = context.copy()
      local.rounding = ROUND_HALF_EVEN
      if _size(value._coef) <= context.prec:
          shift = context.prec - _size(value._coef)
          value = _made(value._sign, value._coef * 10 ** shift, value._exp - shift)
      return value._fix(local)

  def _fixed(value, places):
      # a number as so many units of a decimal place
      shift = value._exp + places
      n = value._coef * 10 ** shift if shift >= 0 else value._coef // 10 ** -shift
      return -n if value._sign else n

  def _exp_fixed(x, places):
      # the exponential of x units of a decimal place, in such units
      one = 10 ** places
      halvings = 8
      x >>= halvings
      total = term = one
      n = 1
      while term:
          term = term * x // (one * n)
          total += term
          n += 1
      for _ in range(halvings):
          total = total * total // one
      return total

  _known_logs = dict()

  def _log_fixed(x, places):
      # the logarithm of x units, which are about one
      one = 10 ** places
      roots = 0
      while abs(x - one) * 10 > one:
          x = _integer_root(x * one)
          roots += 1
      t = (x - one) * one // (x + one)
      square = t * t // one
      total, n = 0, 1
      while t:
          total += t // n
          t = t * square // one
          n += 2
      return total << roots + 1

  def _integer_root(n):
      root = 1 << (n.bit_length() + 1) // 2
      while True:
          better = (root + n // root) // 2
          if better >= root:
              return root
          root = better

  def _log_ten(places):
      if places not in _known_logs:
          _known_logs[places] = _log_fixed(10 * 10 ** places, places)
      return _known_logs[places]

  def _ln_of(value, digits):
      places = digits + 10 + abs(value.adjusted())
      shift = value.adjusted()
      x = _fixed(_made(0, value._coef, value._exp - shift), places + 5)
      n = _log_fixed(x, places + 5) + shift * _log_ten(places + 5)
      return _made(int(n < 0), abs(n), -places - 5)

  def _exp_of(value, digits):
      places = digits + 15 + max(value.adjusted(), 0)
      ten = _log_ten(places)
      x = _fixed(value, places)
      shift, rest = divmod(x, ten)
      return _made(0, _exp_fixed(rest, places), shift - places)

  _align_signs = '<>=^'

  def _formatted(value, spec, context):
      fault = ValueError('invalid format string')
      rest, fill, align = spec, ' ', None
      if len(rest) > 1 and rest[1] in _align_signs:
          fill, align, rest = rest[0], rest[1], rest[2:]
      elif rest[:1] and rest[0] in _align_signs:
          align, rest = rest[0], rest[1:]
      sign = '-'
      if rest[:1] in ('+', '-', ' ') and rest:
          sign, rest = rest[0], rest[1:]
      plain_zero = rest[:1] == 'z'
      if plain_zero:
          rest = rest[1:]
      if rest[:1] == '#':
          rest = rest[1:]
      zero = rest[:1] == '0'
      if zero:
          rest = rest[1:]
          if align is None:
              fill, align = '0', '='
      size = 0
      while size < len(rest) and '0' <= rest[size] <= '9':
          size += 1
      width, rest = int(rest[:size] or '0'), rest[size:]
      comma = rest[:1] == ','
      if comma:
          rest = rest[1:]
      places = None
      if rest[:1] == '.':
          size = 1
          while size < len(rest) and '0' <= rest[size] <= '9':
              size += 1
          if size == 1:
              raise fault
          places, rest = int(rest[1:size]), rest[size:]
      kind = rest or ('g' if places is not None else '')
      if kind not in ('', 'e', 'E', 'f', 'F', 'g', 'G', '%', 'n'):
          raise fault
      align = align or '>'
      if value._special():
          body = str(value.copy_abs())
          if kind == '%':
              body += '%'
          return _padded(value._sign, body, '', sign, ' ' if zero else fill, align, width, False)
      if kind == '%':
          value = _made(value._sign, value._coef, value._exp + 2)
      rounding = context.rounding
      if places is not None:
          if kind in ('e', 'E'):
              value = value._significant(places + 1, rounding)
          elif kind in ('f', 'F', '%'):
              value = value._rescale(-places, rounding)
          elif _size(value._coef) > max(places, 1):
              value = value._significant(max(places, 1), rounding)
      if not value and value._exp > 0 and kind in ('f', 'F', '%'):
          value = value._rescale(0, rounding)
      digits = str(value._coef)
      left = value._exp + len(digits)
      if kind in ('e', 'E'):
          if not value and places is not None:
              point = 1 - places
          else:
              point = 1
      elif kind in ('f', 'F', '%'):
          point = left
      elif value._exp <= 0 and left > -6:
          point = left
      else:
          point = 1
      if point < 0:
          whole, part = '0', '0' * -point + digits
      elif point > len(digits):
          whole, part = digits + '0' * (point - len(digits)), ''
      else:
          whole, part = digits[:point] or '0', digits[point:]
      exp = left - point
      tail = '.' + part if part else ''
      if exp or kind in ('e', 'E'):
          mark = 'e' if kind in ('e', 'g', 'n') else 'E'
          if kind == '' and not context.capitals:
              mark = 'e'
          tail += '%s%+d' % (mark, exp)
      if kind == '%':
          tail += '%'
      negative = value._sign
      if plain_zero and not value._coef:
          negative = 0
      return _padded(negative, whole, tail, sign, fill, align, width, comma)

  def _grouped(digits):
      parts = []
      while len(digits) > 3:
          parts.insert(0, digits[-3:])
          digits = digits[:-3]
      return ','.join([digits] + parts)

  def _padded(negative, whole, tail, sign, fill, align, width, comma):
      lead = '-' if negative else sign if sign in '+ ' else ''
      if comma:
          if fill == '0' and align == '=':
              room = width - len(lead) - len(tail)
              while len(_grouped('0' + whole)) <= room:
                  whole = '0' + whole
              if len(_grouped(whole)) < room:
                  whole = '0' + whole
          whole = _grouped(whole)
      body = whole + tail
      space = fill * (width - len(lead) - len(body))
      if align == '<':
          return lead + body + space
      if align == '=':
          return lead + space + body
      if align == '^':
          half = len(space) // 2
          return space[:half] + lead + body + space[half:]
      return space + lead + body

  def _significant(self, places, rounding):
      if not self._coef:
          return _made(self._sign, 0, self.adjusted() + 1 - places)
      coef, _ = _dropped(self._sign, self._coef, _size(self._coef) - places, rounding)
      exp = self.adjusted() + 1 - places
      if _size(coef) > places:
          coef, exp = coef // 10, exp + 1
      return _made(self._sign, coef, exp)

  Decimal._significant = _significant

  _context_methods = dict(
      abs=lambda a, c: a.__abs__(context=c), add=lambda a, b, c: a.__add__(b, c),
      subtract=lambda a, b, c: a.__sub__(b, c), multiply=lambda a, b, c: a.__mul__(b, c),
      divide=lambda a, b, c: a.__truediv__(b, c), divide_int=lambda a, b, c: a.__floordiv__(b, c),
      remainder=lambda a, b, c: a.__mod__(b, c), divmod=lambda a, b, c: a.__divmod__(b, c),
      power=lambda a, b, c: a.__pow__(b, None, c),
      quantize=lambda a, b, c: a.quantize(b, context=c),
      sqrt=lambda a, c: a.sqrt(c), exp=lambda a, c: a.exp(c), ln=lambda a, c: a.ln(c),
      log10=lambda a, c: a.log10(c), plus=lambda a, c: a.__pos__(c),
      minus=lambda a, c: a.__neg__(c),
      compare=lambda a, b, c: a.compare(b, c), max=lambda a, b, c: a.max(b, c),
      min=lambda a, b, c: a.min(b, c), normalize=lambda a, c: a.normalize(c),
      fma=lambda a, b, d, c: a.fma(b, d, c), to_sci_string=lambda a, c: a.__str__(False, c),
      to_eng_string=lambda a, c: a.__str__(True, c),
      to_integral_value=lambda a, c: a.to_integral_value(context=c),
      is_nan=lambda a, c: a.is_nan(), is_zero=lambda a, c: a.is_zero(),
      is_infinite=lambda a, c: a.is_infinite(), is_finite=lambda a, c: a.is_finite(),
      is_signed=lambda a, c: a.is_signed(), scaleb=lambda a, b, c: a.scaleb(b, c))
"#

/-- The text of `statistics`. -/
def statisticsText : String := r#"
  from fractions import Fraction
  from math import exp, fabs, floor, fsum, gcd, hypot, isqrt, log, sqrt, tau, erf
  from bisect import bisect_left, bisect_right
  from collections import Counter, namedtuple

  class StatisticsError(ValueError):
      pass

  def _ratio(x):
      if isinstance(x, (int, Fraction)):
          return Fraction(x)
      if isinstance(x, float):
          if x != x or x in (float('inf'), float('-inf')):
              return None
          return Fraction(x)
      if hasattr(x, 'as_integer_ratio'):
          try:
              return Fraction(*x.as_integer_ratio())
          except (OverflowError, ValueError):
              return None
      raise TypeError("can't convert type '%s' to numerator/denominator" % type(x).__name__)

  def _wider(a, b):
      if a is b or b is int or b is bool:
          return a
      if a is int or a is bool or issubclass(b, a):
          return b
      if issubclass(a, b):
          return a
      if issubclass(a, Fraction) and issubclass(b, float):
          return b
      if issubclass(a, float) and issubclass(b, Fraction):
          return a
      raise TypeError("don't know how to coerce %s and %s" % (a.__name__, b.__name__))

  def _sum(data):
      count, total, odd, kind = 0, Fraction(0), None, int
      for x in data:
          kind = _wider(kind, type(x))
          part = _ratio(x)
          count += 1
          if part is None:
              odd = x if odd is None else odd + x
          else:
              total += part
      return kind, total if odd is None else odd, count

  def _converted(value, kind):
      if type(value) is kind:
          return value
      if issubclass(kind, int) and isinstance(value, Fraction) and value.denominator != 1:
          kind = float
      if not isinstance(value, Fraction):
          return kind(value)
      if issubclass(kind, (int, float, Fraction)):
          return kind(value)
      return kind(value.numerator) / value.denominator

  def mean(data):
      kind, total, n = _sum(data)
      if n < 1:
          raise StatisticsError('mean requires at least one data point')
      return _converted(total / n, kind)

  def fmean(data, weights=None):
      data = list(data)
      n = len(data)
      if weights is None:
          if not n:
              raise StatisticsError('fmean requires at least one data point')
          return fsum(data) / n
      weights = list(weights)
      if len(weights) != n:
          raise StatisticsError('data and weights must be the same length')
      down = fsum(weights)
      if not down:
          raise StatisticsError('sum of weights must be non-zero')
      return fsum([x * w for x, w in zip(data, weights)]) / down

  def geometric_mean(data):
      try:
          return exp(fmean(map(log, data)))
      except ValueError:
          raise StatisticsError('geometric mean requires a non-empty dataset '
                                'containing positive numbers') from None

  def harmonic_mean(data, weights=None):
      data = list(data)
      fault = 'harmonic mean does not support negative values'
      n = len(data)
      if n < 1:
          raise StatisticsError('harmonic_mean requires at least one data point')
      if n == 1 and weights is None:
          x = data[0]
          if not isinstance(x, (int, float, Fraction)) and not hasattr(x, 'as_integer_ratio'):
              raise TypeError('unsupported type')
          if x < 0:
              raise StatisticsError(fault)
          return x
      if weights is None:
          weights, total = [1] * n, n
      else:
          weights = list(weights)
          if len(weights) != n:
              raise StatisticsError('Number of weights does not match data size')
          total = _sum(weights)[1]
      for x in data:
          if x < 0:
              raise StatisticsError(fault)
      try:
          kind, down, _ = _sum([w / x if w else 0 for w, x in zip(weights, data)])
      except ZeroDivisionError:
          return 0
      if down <= 0:
          raise StatisticsError('Weighted sum must be positive')
      return _converted(total / down, kind)

  def median(data):
      data = sorted(data)
      n = len(data)
      if n == 0:
          raise StatisticsError('no median for empty data')
      return data[n // 2] if n % 2 else (data[n // 2 - 1] + data[n // 2]) / 2

  def median_low(data):
      data = sorted(data)
      if not data:
          raise StatisticsError('no median for empty data')
      return data[(len(data) - 1) // 2]

  def median_high(data):
      data = sorted(data)
      if not data:
          raise StatisticsError('no median for empty data')
      return data[len(data) // 2]

  def median_grouped(data, interval=1.0):
      data = sorted(data)
      n = len(data)
      if not n:
          raise StatisticsError('no median for empty data')
      x = data[n // 2]
      i, j = bisect_left(data, x), bisect_right(data, x)
      lower = float(x) - float(interval) / 2.0
      return lower + float(interval) * (n / 2 - i) / (j - i)

  def mode(data):
      pairs = Counter(iter(data)).most_common(1)
      if not pairs:
          raise StatisticsError('no mode for empty data')
      return pairs[0][0]

  def multimode(data):
      counts = Counter(iter(data))
      if not counts:
          return []
      most = max(counts.values())
      return [value for value, count in counts.items() if count == most]

  def quantiles(data, *, n=4, method='exclusive'):
      if n < 1:
          raise StatisticsError('n must be at least 1')
      data = sorted(data)
      size = len(data)
      if size < 2:
          raise StatisticsError('must have at least two data points')
      if method == 'inclusive':
          parts = [divmod(i * (size - 1), n) for i in range(1, n)]
          return [(data[j] * (n - d) + data[j + 1] * d) / n for j, d in parts]
      if method == 'exclusive':
          result = []
          for i in range(1, n):
              j = min(max(i * (size + 1) // n, 1), size - 1)
              d = i * (size + 1) - j * n
              result.append((data[j - 1] * (n - d) + data[j] * d) / n)
          return result
      raise ValueError('Unknown method: %r' % (method,))

  def _squares(data, center=None):
      if center is not None:
          kind, total, count = _sum([(x - center) ** 2 for x in data])
          return kind, total, count
      kind, total, count = _sum(data)
      if not isinstance(total, Fraction):
          return kind, total, count
      if not count:
          return kind, Fraction(0), 0
      middle = total / count
      return kind, sum([(_ratio(x) - middle) ** 2 for x in data], Fraction(0)), count

  def variance(data, xbar=None):
      kind, squares, n = _squares(list(data), xbar)
      if n < 2:
          raise StatisticsError('variance requires at least two data points')
      return _converted(squares / (n - 1), kind)

  def pvariance(data, mu=None):
      kind, squares, n = _squares(list(data), mu)
      if n < 1:
          raise StatisticsError('pvariance requires at least one data point')
      return _converted(squares / n, kind)

  def _root(value):
      n, m = value.numerator, value.denominator
      if not n:
          return 0.0
      q = (n.bit_length() - m.bit_length() - 109) // 2
      if q >= 0:
          up, down = _odd_root(n, m << 2 * q) << q, 1
      else:
          up, down = _odd_root(n << -2 * q, m), 1 << -q
      return up / down

  def _odd_root(n, m):
      a = isqrt(n // m)
      return a | (a * a * m != n)

  def _deviation(kind, value):
      if kind is not int and not issubclass(kind, (float, Fraction, bool)):
          return (kind(value.numerator) / kind(value.denominator)).sqrt()
      return _root(value)

  def stdev(data, xbar=None):
      kind, squares, n = _squares(list(data), xbar)
      if n < 2:
          raise StatisticsError('stdev requires at least two data points')
      return _deviation(kind, squares / (n - 1))

  def pstdev(data, mu=None):
      kind, squares, n = _squares(list(data), mu)
      if n < 1:
          raise StatisticsError('pstdev requires at least one data point')
      return _deviation(kind, squares / n)

  def covariance(x, y, /):
      n = len(x)
      if len(y) != n:
          raise StatisticsError('covariance requires that both inputs have same number of data '
                                'points')
      if n < 2:
          raise StatisticsError('covariance requires at least two data points')
      xbar, ybar = fsum(x) / n, fsum(y) / n
      return fsum([(xi - xbar) * (yi - ybar) for xi, yi in zip(x, y)]) / (n - 1)

  def correlation(x, y, /):
      n = len(x)
      if len(y) != n:
          raise StatisticsError('correlation requires that both inputs have same number of data '
                                'points')
      if n < 2:
          raise StatisticsError('correlation requires at least two data points')
      xbar, ybar = fsum(x) / n, fsum(y) / n
      sxy = fsum([(xi - xbar) * (yi - ybar) for xi, yi in zip(x, y)])
      sxx = fsum([(xi - xbar) ** 2.0 for xi in x])
      syy = fsum([(yi - ybar) ** 2.0 for yi in y])
      try:
          return sxy / sqrt(sxx * syy)
      except ZeroDivisionError:
          raise StatisticsError('at least one of the inputs is constant')

  LinearRegression = namedtuple('LinearRegression', ('slope', 'intercept'), module='statistics')

  def linear_regression(x, y, /, *, proportional=False):
      n = len(x)
      if len(y) != n:
          raise StatisticsError('linear regression requires that both inputs have same number of '
                                'data points')
      if n < 2:
          raise StatisticsError('linear regression requires at least two data points')
      if proportional:
          sxy = fsum([xi * yi for xi, yi in zip(x, y)])
          sxx = fsum([xi * xi for xi in x])
      else:
          xbar, ybar = fsum(x) / n, fsum(y) / n
          sxy = fsum([(xi - xbar) * (yi - ybar) for xi, yi in zip(x, y)])
          sxx = fsum([(xi - xbar) ** 2.0 for xi in x])
      try:
          slope = sxy / sxx
      except ZeroDivisionError:
          raise StatisticsError('x is constant')
      return LinearRegression(slope, 0.0 if proportional else ybar - slope * xbar)

  class NormalDist:
      def __init__(self, mu=0.0, sigma=1.0):
          if sigma < 0.0:
              raise StatisticsError('sigma must be non-negative')
          self._mu, self._sigma = float(mu), float(sigma)
      @classmethod
      def from_samples(cls, data):
          data = list(data)
          return cls(fmean(data), stdev(data))
      mean = property(lambda self: self._mu)
      median = property(lambda self: self._mu)
      mode = property(lambda self: self._mu)
      stdev = property(lambda self: self._sigma)
      variance = property(lambda self: self._sigma * self._sigma)
      def pdf(self, x):
          variance = self._sigma * self._sigma
          if not variance:
              raise StatisticsError('pdf() not defined when sigma is zero')
          diff = x - self._mu
          return exp(diff * diff / (-2.0 * variance)) / sqrt(tau * variance)
      def cdf(self, x):
          if not self._sigma:
              raise StatisticsError('cdf() not defined when sigma is zero')
          return 0.5 * (1.0 + erf((x - self._mu) / (self._sigma * sqrt(2.0))))
      def zscore(self, x):
          if not self._sigma:
              raise StatisticsError('zscore() not defined when sigma is zero')
          return (x - self._mu) / self._sigma
      def __repr__(self):
          return '%s(mu=%r, sigma=%r)' % (type(self).__name__, self._mu, self._sigma)
      def __eq__(self, other):
          if not isinstance(other, NormalDist):
              return NotImplemented
          return self._mu == other._mu and self._sigma == other._sigma
      def __hash__(self):
          return hash((self._mu, self._sigma))
      def __add__(self, other):
          if isinstance(other, NormalDist):
              return NormalDist(self._mu + other._mu, hypot(self._sigma, other._sigma))
          return NormalDist(self._mu + other, self._sigma)
      def __sub__(self, other):
          if isinstance(other, NormalDist):
              return NormalDist(self._mu - other._mu, hypot(self._sigma, other._sigma))
          return NormalDist(self._mu - other, self._sigma)
      def __mul__(self, factor):
          return NormalDist(self._mu * factor, self._sigma * fabs(factor))
      def __truediv__(self, divisor):
          return NormalDist(self._mu / divisor, self._sigma / fabs(divisor))
      __radd__, __rmul__ = __add__, __mul__
"#

/-- The text of `random`. -/
def randomText : String := r#"
  from bisect import bisect as _bisect
  from itertools import accumulate as _accumulate
  from math import (acos as _acos, ceil as _ceil, cos as _cos, e as _e, exp as _exp,
                    floor as _floor, log as _log, pi as _pi, sin as _sin, sqrt as _sqrt)
  from operator import index as _index

  NV_MAGICCONST = 4 * _exp(-0.5) / _sqrt(2.0)
  LOG4 = _log(4.0)
  SG_MAGICCONST = 1.0 + _log(4.5)
  BPF = 53
  RECIP_BPF = 2 ** -BPF
  TWOPI = 2.0 * _pi
  _word = 0xffffffff
  _long = 0xffffffffffffffff

  def _cube_root(n):
      root = 1 << (n.bit_length() + 2) // 3
      while True:
          better = (2 * root + n // (root * root)) // 3
          if better >= root:
              return root
          root = better

  def _primes(count):
      found, n = [], 2
      while len(found) < count:
          if all(n % p for p in found):
              found.append(n)
          n += 1
      return found

  def _square_root(n):
      root = 1 << (n.bit_length() + 1) // 2
      while True:
          better = (root + n // root) // 2
          if better >= root:
              return root
          root = better

  def _turned(x, n):
      return (x >> n | x << 64 - n) & _long

  def _digest(data):
      primes = _primes(80)
      rounds = [_cube_root(p << 192) & _long for p in primes]
      state = [_square_root(p << 128) & _long for p in primes[:8]]
      size = len(data)
      data += b'\x80' + bytes((111 - size) % 128) + (8 * size).to_bytes(16, 'big')
      for start in range(0, len(data), 128):
          w = [int.from_bytes(data[i:i + 8], 'big') for i in range(start, start + 128, 8)]
          for i in range(16, 80):
              x, y = w[i - 15], w[i - 2]
              w.append(w[i - 16] + (_turned(x, 1) ^ _turned(x, 8) ^ x >> 7) + w[i - 7]
                       + (_turned(y, 19) ^ _turned(y, 61) ^ y >> 6) & _long)
          a, b, c, d, e, f, g, h = state
          for i in range(80):
              t = (h + (_turned(e, 14) ^ _turned(e, 18) ^ _turned(e, 41)) + (e & f ^ ~e & g)
                   + rounds[i] + w[i])
              u = (_turned(a, 28) ^ _turned(a, 34) ^ _turned(a, 39)) + (a & b ^ a & c ^ b & c)
              a, b, c, d, e, f, g, h = t + u & _long, a, b, c, d + t & _long, e, f, g
          state = [x + y & _long for x, y in zip(state, (a, b, c, d, e, f, g, h))]
      return b''.join([x.to_bytes(8, 'big') for x in state])

  class Random:
      VERSION = 3
      def __init__(self, x=None):
          self.seed(x)
      def seed(self, a=None, version=2):
          if isinstance(a, (str, bytes, bytearray)) and version == 2:
              a = a.encode() if isinstance(a, str) else bytes(a)
              a = int.from_bytes(a + _digest(a), 'big')
          elif a is None:
              a = 5489
          elif not isinstance(a, (int, float, str, bytes, bytearray)):
              raise TypeError('The only supported seed types are: None,\n'
                              'int, float, str, bytes, and bytearray.')
          a = abs(a if isinstance(a, int) else hash(a))
          key = []
          while a:
              key.append(a & _word)
              a >>= 32
          self._key, self._mt, self.gauss_next = key or [0], None, None
      def _start(self):
          key, x = self._key, 19650218
          mt = [x]
          for i in range(1, 624):
              x = (1812433253 * (x ^ x >> 30) + i) & _word
              mt.append(x)
          i, j, size = 1, 0, len(key)
          x = mt[0]
          for _ in range(max(624, size)):
              x = ((mt[i] ^ (x ^ x >> 30) * 1664525) + key[j] + j) & _word
              mt[i] = x
              i += 1
              j += 1
              if i >= 624:
                  mt[0] = x
                  i = 1
              if j >= size:
                  j = 0
          for _ in range(623):
              x = ((mt[i] ^ (x ^ x >> 30) * 1566083941) - i) & _word
              mt[i] = x
              i += 1
              if i >= 624:
                  mt[0] = x
                  i = 1
          mt[0] = 0x80000000
          self._mt, self._place = mt, 624
      def _turn(self):
          mt = self._mt
          for i in range(624):
              y = mt[i] & 0x80000000 | mt[(i + 1) % 624] & 0x7fffffff
              mt[i] = mt[(i + 397) % 624] ^ y >> 1 ^ (0x9908b0df if y & 1 else 0)
          self._place = 0
      def _next(self):
          if self._mt is None:
              self._start()
          if self._place >= 624:
              self._turn()
          y = self._mt[self._place]
          self._place += 1
          y ^= y >> 11
          y ^= y << 7 & 0x9d2c5680
          y ^= y << 15 & 0xefc60000
          return y ^ y >> 18
      def getstate(self):
          if self._mt is None:
              self._start()
          return self.VERSION, tuple(self._mt) + (self._place,), self.gauss_next
      def setstate(self, state):
          version, internal, self.gauss_next = state
          self._mt, self._place = list(internal[:-1]), internal[-1]
      def random(self):
          a, b = self._next() >> 5, self._next() >> 6
          return (a * 67108864.0 + b) * (1.0 / 9007199254740992.0)
      def getrandbits(self, k, /):
          if k < 0:
              raise ValueError('number of bits must be non-negative')
          value, shift = 0, 0
          while k > 0:
              r = self._next()
              if k < 32:
                  r >>= 32 - k
              value |= r << shift
              shift += 32
              k -= 32
          return value
      def randbytes(self, n):
          return self.getrandbits(n * 8).to_bytes(n, 'little')
      def _randbelow(self, n):
          k = n.bit_length()
          r = self.getrandbits(k)
          while r >= n:
              r = self.getrandbits(k)
          return r
      def randrange(self, start, stop=None, step=1):
          start = _index(start)
          if stop is None:
              if start > 0:
                  return self._randbelow(start)
              raise ValueError('empty range for randrange()')
          stop, step = _index(stop), _index(step)
          width = stop - start
          if step == 1:
              if width > 0:
                  return start + self._randbelow(width)
              raise ValueError('empty range for randrange() (%d, %d, %d)' % (start, stop, width))
          if step > 0:
              n = (width + step - 1) // step
          elif step < 0:
              n = (width + step + 1) // step
          else:
              raise ValueError('zero step for randrange()')
          if n <= 0:
              raise ValueError('empty range for randrange()')
          return start + step * self._randbelow(n)
      def randint(self, a, b):
          return self.randrange(a, b + 1)
      def choice(self, seq):
          if not len(seq):
              raise IndexError('Cannot choose from an empty sequence')
          return seq[self._randbelow(len(seq))]
      def shuffle(self, x):
          for i in reversed(range(1, len(x))):
              j = self._randbelow(i + 1)
              x[i], x[j] = x[j], x[i]
      def sample(self, population, k, *, counts=None):
          if (isinstance(population, (set, frozenset, dict))
                  or not hasattr(population, '__getitem__')):
              raise TypeError('Population must be a sequence.  For dicts or sets, use sorted(d).')
          n = len(population)
          if counts is not None:
              sums = list(_accumulate(counts))
              if len(sums) != n:
                  raise ValueError('The number of counts does not match the population')
              total = sums.pop() if sums else 0
              if not isinstance(total, int):
                  raise TypeError('Counts must be integers')
              if total <= 0:
                  raise ValueError('Total of counts must be greater than zero')
              return [population[_bisect(sums, s)] for s in self.sample(range(total), k=k)]
          if not 0 <= k <= n:
              raise ValueError('Sample larger than population or is negative')
          size = 21
          if k > 5:
              size += 4 ** _ceil(_log(k * 3, 4))
          result = []
          if n <= size:
              pool = list(population)
              for i in range(k):
                  j = self._randbelow(n - i)
                  result.append(pool[j])
                  pool[j] = pool[n - i - 1]
          else:
              selected = set()
              for i in range(k):
                  j = self._randbelow(n)
                  while j in selected:
                      j = self._randbelow(n)
                  selected.add(j)
                  result.append(population[j])
          return result
      def choices(self, population, weights=None, *, cum_weights=None, k=1):
          n = len(population)
          if cum_weights is None:
              if weights is None:
                  return [population[_floor(self.random() * (n + 0.0))] for _ in range(k)]
              if isinstance(weights, int):
                  raise TypeError('The number of choices must be a keyword argument: k=%r'
                                  % (weights,))
              cum_weights = list(_accumulate(weights))
          elif weights is not None:
              raise TypeError('Cannot specify both weights and cumulative weights')
          if len(cum_weights) != n:
              raise ValueError('The number of weights does not match the population')
          total = cum_weights[-1] + 0.0
          if total <= 0.0:
              raise ValueError('Total of weights must be greater than zero')
          return [population[_bisect(cum_weights, self.random() * total, 0, n - 1)]
                  for _ in range(k)]
      def uniform(self, a, b):
          return a + (b - a) * self.random()
      def triangular(self, low=0.0, high=1.0, mode=None):
          u = self.random()
          try:
              c = 0.5 if mode is None else (mode - low) / (high - low)
          except ZeroDivisionError:
              return low
          if u > c:
              u, c = 1.0 - u, 1.0 - c
              low, high = high, low
          return low + (high - low) * _sqrt(u * c)
      def normalvariate(self, mu=0.0, sigma=1.0):
          while True:
              u1 = self.random()
              u2 = 1.0 - self.random()
              z = NV_MAGICCONST * (u1 - 0.5) / u2
              if z * z / 4.0 <= -_log(u2):
                  return mu + z * sigma
      def gauss(self, mu=0.0, sigma=1.0):
          z, self.gauss_next = self.gauss_next, None
          if z is None:
              turn = self.random() * TWOPI
              size = _sqrt(-2.0 * _log(1.0 - self.random()))
              z = _cos(turn) * size
              self.gauss_next = _sin(turn) * size
          return mu + z * sigma
      def lognormvariate(self, mu, sigma):
          return _exp(self.normalvariate(mu, sigma))
      def expovariate(self, lambd):
          return -_log(1.0 - self.random()) / lambd
      def vonmisesvariate(self, mu, kappa):
          if kappa <= 1e-6:
              return TWOPI * self.random()
          s = 0.5 / kappa
          r = s + _sqrt(1.0 + s * s)
          while True:
              u1 = self.random()
              z = _cos(_pi * u1)
              d = z / (r + z)
              u2 = self.random()
              if u2 < 1.0 - d * d or u2 <= (1.0 - d) * _exp(d):
                  break
          q = 1.0 / r
          f = (q + z) / (1.0 + q * z)
          if self.random() > 0.5:
              return (mu + _acos(f)) % TWOPI
          return (mu - _acos(f)) % TWOPI
      def gammavariate(self, alpha, beta):
          if alpha <= 0.0 or beta <= 0.0:
              raise ValueError('gammavariate: alpha and beta must be > 0.0')
          if alpha > 1.0:
              ainv = _sqrt(2.0 * alpha - 1.0)
              bbb = alpha - LOG4
              ccc = alpha + ainv
              while True:
                  u1 = self.random()
                  if not 1e-7 < u1 < 0.9999999:
                      continue
                  u2 = 1.0 - self.random()
                  v = _log(u1 / (1.0 - u1)) / ainv
                  x = alpha * _exp(v)
                  z = u1 * u1 * u2
                  r = bbb + ccc * v - x
                  if r + SG_MAGICCONST - 4.5 * z >= 0.0 or r >= _log(z):
                      return x * beta
          if alpha == 1.0:
              return -_log(1.0 - self.random()) * beta
          while True:
              u = self.random()
              b = (_e + alpha) / _e
              p = b * u
              if p <= 1.0:
                  x = p ** (1.0 / alpha)
              else:
                  x = -_log((b - p) / alpha)
              u1 = self.random()
              if p > 1.0:
                  if u1 <= x ** (alpha - 1.0):
                      break
              elif u1 <= _exp(-x):
                  break
          return x * beta
      def betavariate(self, alpha, beta):
          y = self.gammavariate(alpha, 1.0)
          return y / (y + self.gammavariate(beta, 1.0)) if y else 0.0
      def paretovariate(self, alpha):
          return (1.0 - self.random()) ** (-1.0 / alpha)
      def weibullvariate(self, alpha, beta):
          return alpha * (-_log(1.0 - self.random())) ** (1.0 / beta)

  class _Later:
      _made = None
      def __get__(self, owner, kind=None):
          return self
      def __call__(self):
          if self._made is None:
              self._made = Random()
          return self._made

  _shared = _Later()

  def _method(name):
      def function(*args, **keywords):
          return getattr(_shared(), name)(*args, **keywords)
      function.__name__ = function.__qualname__ = name
      return function

  seed, random, uniform, triangular = map(_method, ('seed', 'random', 'uniform', 'triangular'))
  randint, choice, randrange, sample = map(_method, ('randint', 'choice', 'randrange', 'sample'))
  shuffle, choices, normalvariate = map(_method, ('shuffle', 'choices', 'normalvariate'))
  lognormvariate, expovariate = map(_method, ('lognormvariate', 'expovariate'))
  vonmisesvariate, gammavariate = map(_method, ('vonmisesvariate', 'gammavariate'))
  gauss, betavariate, paretovariate = map(_method, ('gauss', 'betavariate', 'paretovariate'))
  weibullvariate, getstate, setstate = map(_method, ('weibullvariate', 'getstate', 'setstate'))
  getrandbits, randbytes = map(_method, ('getrandbits', 'randbytes'))

  class SystemRandom(Random):
      pass
"#

end SnippetRunner.Library
